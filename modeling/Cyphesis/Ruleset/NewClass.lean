import Cyphesis.Ruleset.Installation

/-!
# New classes

Installing an entity class adds a leaf to the forest of factories, and its type.
-/

namespace Cyphesis.Ruleset

open Std (ExtTreeMap)
open Cyphesis.Atlas Option Std.ExtTreeMap
open Cyphesis.Common
open Cyphesis.Foundation

theorem getElem?_foldl_combineInto (classAttributes : ClassAttributes) (attributes : MapType)
    (name : String) :
    (classAttributes.foldl combineInto attributes)[name]? =
      classAttributes[name]?.elim attributes[name]? fun classAttribute =>
        some (classAttribute.combine (attributes[name]?.getD .none)) := by
  refine foldl_map_slot (fun attributes name => (attributes : MapType)[name]?) combineInto
    (fun _ classAttribute held =>
      some ((classAttribute : ClassAttribute).combine (held.getD .none)))
    ?_ ?_ classAttributes attributes name
  · intro attributes name classAttribute
    simp [combineInto]
  · intro attributes name classAttribute other different
    have apart : name ≠ other := Ne.symm different
    simp [combineInto, getElem?_insert, apart]

namespace EntityFactory

/-- What a rule gives for a name. -/
def ruleAttribute (description : Description) (name : String) : Option ClassAttribute :=
  match description.attributes.bind fun attributes => attributes[name]? with
  | some (.map attr) => some (ClassAttribute.ofMap attr)
  | _ => none

variable (factory : EntityFactory)

theorem populateEntry_parent (name : String) (value : Element) :
    (factory.populateEntry name value).parent = factory.parent ∧
      (factory.populateEntry name value).children = factory.children := by
  unfold populateEntry
  cases value <;> exact ⟨rfl, rfl⟩

variable (description : Description)

theorem populate_parent :
    (factory.populate description).parent = factory.parent ∧
      (factory.populate description).children = factory.children := by
  unfold populate
  cases description.attributes with
  | none => exact ⟨rfl, rfl⟩
  | some attributes =>
    simp only [foldl_eq_foldl_toList]
    induction attributes.toList generalizing factory with
    | nil => exact ⟨rfl, rfl⟩
    | cons entry rest ih =>
      obtain ⟨sameParent, sameChildren⟩ := factory.populateEntry_parent entry.1 entry.2
      obtain ⟨restParent, restChildren⟩ := ih (factory.populateEntry entry.1 entry.2)
      exact ⟨restParent.trans sameParent, restChildren.trans sameChildren⟩

/-- What the rule makes of it. -/
def populatedSlot (value : Element) (held : Option Element × Option ClassAttribute) :
    Option Element × Option ClassAttribute :=
  match value with
  | .map attr =>
    (some ((ClassAttribute.ofMap attr).combine (held.1.getD .none)),
      some (ClassAttribute.ofMap attr))
  | _ => held

theorem populate_getElem? (name : String) :
    ((factory.populate description).attributes[name]?,
      (factory.populate description).classAttributes[name]?) =
      (ruleAttribute description name).elim
      (factory.attributes[name]?, factory.classAttributes[name]?)
        fun classAttribute =>
          (some (classAttribute.combine (factory.attributes[name]?.getD .none)),
            some classAttribute) := by
  unfold populate ruleAttribute
  cases description.attributes with
  | none => rfl
  | some attributes =>
    have loop := foldl_map_slot
      (fun factory name => ((factory : EntityFactory).attributes[name]?,
        factory.classAttributes[name]?)) populateEntry
      (fun _ value held => populatedSlot value held) ?_ ?_ attributes factory name
    · rw [bind_some]
      dsimp only at loop ⊢
      rw [loop]
      cases attributes[name]? with
      | none => rfl
      | some value => cases value <;> rfl
    · intro factory name value
      cases value <;> simp [populateEntry, populatedSlot, combineInto]
    · intro factory name value other different
      have apart : name ≠ other := Ne.symm different
      cases value <;> simp [populateEntry, combineInto, getElem?_insert, apart]

theorem populate_attributes {factory : EntityFactory} (fresh : factory.classAttributes = ∅)
    (description : Description) :
    (factory.populate description).attributes =
      (factory.populate description).classAttributes.foldl combineInto factory.attributes := by
  apply ext_getElem?
  intro name
  have both := factory.populate_getElem? description name
  rw [fresh] at both
  rw [getElem?_foldl_combineInto]
  cases given : ruleAttribute description name with
  | none =>
    rw [given, elim_none, Prod.mk.injEq] at both
    rw [both.1, both.2, getElem?_empty, elim_none]
  | some classAttribute =>
    rw [given, elim_some, Prod.mk.injEq] at both
    rw [both.1, both.2, elim_some]

end EntityFactory

namespace RuleBook

/-- A new class before its parent hears of it. -/
structure NewClass (book changed : RuleBook) (obj : Description) (kit : EntityKit)
    (attributes : MapType) : Prop where
  new : book.atlasObjects[obj.id]? = none
  different : obj.id ≠ obj.parent
  parentKnown : book.hasClass obj.parent = true
  kits : ∀ name : String, changed.entityFactories[name]? =
    if obj.id = name then some kit else book.entityFactories[name]?
  depthBound : changed.depthBound = book.depthBound + 1
  type : ∃ node, changed.atlasObjects[obj.id]? = some node ∧
    node.Agrees book.propertyFactories attributes ∧ node.name = obj.id ∧
    node.parent = some obj.parent
  made : ∀ node, changed.atlasObjects[obj.id]? = some node → ∀ name : String,
    node.defaults[name]? = attributes[name]?.bind (TypeNode.madeDefault book.propertyFactories name)
  defaults : ∀ name : String, name ≠ obj.id →
    changed.atlasObjects[name]?.map TypeNode.defaults =
      book.atlasObjects[name]?.map TypeNode.defaults
  before : ∀ {name : String} {node}, book.atlasObjects[name]? = some node →
    ∃ changedNode, changed.atlasObjects[name]? = some changedNode ∧
      changedNode.defaults = node.defaults ∧ changedNode.name = node.name ∧
      changedNode.parent = node.parent
  entered : ∃ middle, Entered book middle obj ∧ ∀ name : String, changed.atlasObjects[name]? =
    if obj.id = name then
      some ({ TypeNode.create obj.id obj with parent := some obj.parent }.addProperties attributes
        book.propertyFactories)
    else middle.atlasObjects[name]?
  manager : changed.propertyFactories = book.propertyFactories
  waiting : changed.waitingRules = book.waitingRules

theorem atlasObjects_addProperties {book : RuleBook} {name : String} {node : TypeNode}
    (known : book.atlasObjects[name]? = some node) (attributes : MapType) (other : String) :
    (book.addProperties name attributes).atlasObjects[other]? =
      if name = other then some (node.addProperties attributes book.propertyFactories)
      else book.atlasObjects[other]? := by
  rw [addProperties, known]
  exact book.atlasObjects_setType name other _

theorem addProperties_fields (book : RuleBook) (name : String) (attributes : MapType) :
    (book.addProperties name attributes).entityFactories = book.entityFactories ∧
      (book.addProperties name attributes).propertyFactories = book.propertyFactories ∧
      (book.addProperties name attributes).waitingRules = book.waitingRules := by
  unfold addProperties
  cases book.atlasObjects[name]? <;> exact ⟨rfl, rfl, rfl⟩

theorem installFactory_newClass {book changed : RuleBook} {obj : Description} {kit : EntityKit}
    (typed : ∀ name kit, book.entityFactories[name]? = some kit → book.hasClass name = true)
    (installed : book.installFactory obj kit = some changed) (attributes : MapType) :
    NewClass book (changed.addProperties obj.id attributes) obj kit attributes := by
  obtain ⟨mid, added, rfl⟩ := Option.map_eq_some_iff.mp installed
  have entered := addChild_entered added
  have noFactory : obj.id ∉ book.entityFactories := by
    intro isKey
    rw [mem_iff_isSome_getElem?] at isKey
    obtain ⟨old, isOld⟩ := Option.isSome_iff_exists.mp isKey
    obtain ⟨node, isNode⟩ := getElem?_of_hasClass (typed _ _ isOld)
    rw [entered.new] at isNode
    contradiction
  have isType : { mid with entityFactories := mid.entityFactories.insertIfNew obj.id kit
      }.atlasObjects[obj.id]? = _ := entered.type
  have types := atlasObjects_addProperties isType attributes
  obtain ⟨sameFactories, sameManager, sameWaiting⟩ := addProperties_fields
    { mid with entityFactories := mid.entityFactories.insertIfNew obj.id kit } obj.id attributes
  refine
    { new := entered.new
      different := entered.different
      parentKnown := ?_
      kits := ?_
      depthBound := ?_
      type := ?_
      made := ?_
      defaults := ?_
      before := ?_
      entered := ?_
      manager := sameManager.trans entered.manager
      waiting := sameWaiting.trans entered.waiting }
  · obtain ⟨parentNode, -, isParent, -⟩ := entered.parent
    exact hasClass_of_getElem? isParent
  · intro name
    rw [sameFactories, entered.factories, getElem?_insertIfNew]
    by_cases same : obj.id = name
    · subst same
      simp [noFactory]
    · simp [same]
  · rw [depthBound, sameFactories, entered.factories, size_insertIfNew,
      if_neg noFactory, depthBound]
  · refine ⟨_, (types obj.id).trans (if_pos rfl), ?_, rfl, rfl⟩
    rw [show mid.propertyFactories = book.propertyFactories from entered.manager]
    exact TypeNode.addProperties_agrees rfl _ attributes
  · intro node isNode name
    rw [types, if_pos rfl] at isNode
    obtain rfl := Option.some.inj isNode
    rw [TypeNode.addProperties_getElem?,
      show mid.propertyFactories = book.propertyFactories from entered.manager]
    have empty : (TypeNode.create obj.id obj).defaults[name]? = none := getElem?_empty
    cases attributes[name]? with
    | none => exact empty
    | some value =>
      rw [elim_some, bind_some, empty, or_none]
  · intro name notNew
    rw [types, if_neg (Ne.symm notNew)]
    exact entered.defaults notNew
  · intro name node known
    have notNew : name ≠ obj.id := by
      rintro rfl
      rw [entered.new] at known
      contradiction
    rw [types, if_neg (Ne.symm notNew)]
    exact entered.before known
  · refine ⟨mid, entered, ?_⟩
    intro name
    rw [types, show mid.propertyFactories = book.propertyFactories from entered.manager]

section Install

variable {book changed : RuleBook} {obj : Description} {factory : EntityFactory}
  {rank : String → Nat} (newClass : NewClass book changed obj (.entity factory) factory.attributes)
  (typed : ∀ name kit, book.entityFactories[name]? = some kit → book.hasClass name = true)

include newClass

theorem NewClass.entityFactory (name : String) :
    changed.entityFactory name =
      if obj.id = name then some factory else book.entityFactory name := by
  unfold RuleBook.entityFactory
  rw [newClass.kits]
  split_ifs <;> rfl

variable {other : EntityFactory}

theorem NewClass.factory_of_ne {name : String} (notNew : name ≠ obj.id)
    (known : changed.entityFactory name = some other) : book.entityFactory name = some other := by
  rw [newClass.entityFactory, if_neg (Ne.symm notNew)] at known
  exact known

include typed

theorem NewClass.unknown : book.entityFactory obj.id = none := by
  unfold RuleBook.entityFactory
  cases found : book.entityFactories[obj.id]? with
  | none => rfl
  | some kit =>
    obtain ⟨node, isNode⟩ := getElem?_of_hasClass (typed _ _ found)
    rw [newClass.new] at isNode
    contradiction

theorem NewClass.not_parent (forest : book.Forest rank) {name : String}
    (known : book.entityFactory name = some other) : other.parent ≠ some obj.id := by
  intro isParent
  obtain ⟨parentFactory, isParentFactory, -⟩ := forest.listed known isParent
  rw [newClass.unknown typed] at isParentFactory
  contradiction

theorem NewClass.clean (forest : book.Forest rank) {name : String} (notNew : name ≠ obj.id)
    (clean : book.Clean name) : changed.Clean name := by
  refine clean.congr ?_ (newClass.defaults name notNew) ?_ newClass.manager
  · rw [newClass.entityFactory, if_neg (Ne.symm notNew)]
  · intro other known
    unfold inherited
    cases isParent : other.parent with
    | none => rfl
    | some parent =>
      have notParent : obj.id ≠ parent := by
        rintro rfl
        exact newClass.not_parent typed forest known isParent
      rw [bind_some, bind_some, newClass.entityFactory, if_neg notParent]

omit typed in
theorem NewClass.typeAgrees : changed.TypeAgrees obj.id := by
  intro current node isCurrent isNode
  obtain ⟨newNode, isNewNode, agrees, -⟩ := newClass.type
  rw [newClass.entityFactory, if_pos rfl] at isCurrent
  rw [isNewNode] at isNode
  obtain rfl := Option.some.inj isCurrent
  obtain rfl := Option.some.inj isNode
  rw [newClass.manager]
  exact agrees

omit typed in
theorem NewClass.typedNode (forest : book.Forest rank) {name : String}
    (known : changed.entityFactory name = some other) :
    ∃ node, changed.atlasObjects[name]? = some node := by
  by_cases isNew : name = obj.id
  · subst isNew
    obtain ⟨node, isNode, -⟩ := newClass.type
    exact ⟨node, isNode⟩
  · obtain ⟨node, isNode⟩ := forest.typed (newClass.factory_of_ne isNew known)
    obtain ⟨changedNode, isChanged, -⟩ := newClass.before isNode
    exact ⟨changedNode, isChanged⟩

omit typed in
theorem NewClass.lawfulTypes (forest : book.Forest rank) (lawful : book.LawfulTypes) :
    changed.LawfulTypes := by
  intro name other changedNode known isChanged
  rw [newClass.manager]
  by_cases isNew : name = obj.id
  · subst isNew
    obtain ⟨node, isNode, agrees, -⟩ := newClass.type
    rw [isNode] at isChanged
    obtain rfl := Option.some.inj isChanged
    exact agrees.lawful
  · have wasKnown := newClass.factory_of_ne isNew known
    obtain ⟨node, isNode⟩ := forest.typed wasKnown
    obtain ⟨also, isAlso, sameDefaults, -⟩ := newClass.before isNode
    rw [isAlso] at isChanged
    obtain rfl := Option.some.inj isChanged
    intro property value held
    exact lawful name other node wasKnown isNode property value (sameDefaults ▸ held)

end Install

/-- A new class ranks above all others. -/
def newRank (book : RuleBook) (rank : String → Nat) (new name : String) : Nat :=
  if name = new then book.depthBound else rank name

theorem newRank_of_ne {book : RuleBook} {rank : String → Nat} {new name : String}
    (different : name ≠ new) : book.newRank rank new name = rank name :=
  if_neg different

/-- A new class extends the forest. -/
theorem Forest.extend {book changed : RuleBook} {rank : String → Nat} {new : String}
    {factory : EntityFactory} (forest : book.Forest rank) (unknown : book.entityFactory new = none)
    (isNewFactory : changed.entityFactory new = some factory) (noChildren : factory.children = [])
    (parentKnown : ∀ parent, factory.parent = some parent →
      ∃ parentFactory, book.entityFactory parent = some parentFactory)
    (kept : ∀ name before, book.entityFactory name = some before →
      ∃ other, changed.entityFactory name = some other)
    (old : ∀ name other, name ≠ new → changed.entityFactory name = some other →
      ∃ before, book.entityFactory name = some before ∧ other.parent = before.parent ∧
        ∀ child, child ∈ other.children ↔
          child ∈ before.children ∨ (factory.parent = some name ∧ child = new))
    (bound : changed.depthBound = book.depthBound + 1)
    (distinct : ∀ {name other}, changed.entityFactory name = some other → other.children.Nodup)
    (typed : ∀ {name other}, changed.entityFactory name = some other →
      ∃ node, changed.atlasObjects[name]? = some node) :
    changed.Forest (book.newRank rank new) := by
  have known_ne : ∀ name before, book.entityFactory name = some before → name ≠ new := by
    rintro name before known rfl
    rw [unknown] at known
    contradiction
  have old_of_known : ∀ name before, book.entityFactory name = some before →
      ∃ other, changed.entityFactory name = some other ∧ other.parent = before.parent ∧
        ∀ child, child ∈ other.children ↔
          child ∈ before.children ∨ (factory.parent = some name ∧ child = new) := by
    intro name before known
    obtain ⟨other, isOther⟩ := kept name before known
    obtain ⟨also, isAlso, sameParent, sameChildren⟩ :=
      old name other (known_ne name before known) isOther
    rw [known] at isAlso
    obtain rfl := Option.some.inj isAlso
    exact ⟨other, isOther, sameParent, sameChildren⟩
  refine
    { listed := ?_
      child := ?_
      rank_lt := ?_
      rank_bound := ?_
      nodup := distinct
      typed := typed }
  · intro name other parent known isParent
    by_cases isNew : name = new
    · subst isNew
      rw [isNewFactory] at known
      obtain rfl := Option.some.inj known
      obtain ⟨parentBefore, isParentBefore⟩ := parentKnown parent isParent
      obtain ⟨parentFactory, isParentFactory, -, sameChildren⟩ :=
        old_of_known parent parentBefore isParentBefore
      exact ⟨parentFactory, isParentFactory, (sameChildren name).mpr (Or.inr ⟨isParent, rfl⟩)⟩
    · obtain ⟨before, isBefore, sameParent, -⟩ := old name other isNew known
      obtain ⟨parentBefore, isParentBefore, isChild⟩ :=
        forest.listed isBefore (sameParent ▸ isParent)
      obtain ⟨parentFactory, isParentFactory, -, sameChildren⟩ :=
        old_of_known parent parentBefore isParentBefore
      exact ⟨parentFactory, isParentFactory, (sameChildren name).mpr (Or.inl isChild)⟩
  · intro name other child known isChild
    by_cases isNew : name = new
    · subst isNew
      rw [isNewFactory] at known
      obtain rfl := Option.some.inj known
      rw [noChildren] at isChild
      simp at isChild
    · obtain ⟨before, isBefore, -, sameChildren⟩ := old name other isNew known
      rcases (sameChildren child).mp isChild with wasChild | ⟨isParent, rfl⟩
      · obtain ⟨childBefore, isChildBefore, isParent⟩ := forest.child isBefore wasChild
        obtain ⟨childFactory, isChildFactory, sameParent, -⟩ :=
          old_of_known child childBefore isChildBefore
        exact ⟨childFactory, isChildFactory, sameParent.trans isParent⟩
      · exact ⟨factory, isNewFactory, isParent⟩
  · intro name other parent known isParent
    by_cases isNew : name = new
    · subst isNew
      rw [isNewFactory] at known
      obtain rfl := Option.some.inj known
      obtain ⟨parentBefore, isParentBefore⟩ := parentKnown parent isParent
      rw [newRank_of_ne (known_ne _ _ isParentBefore), newRank, if_pos rfl]
      exact forest.rank_bound isParentBefore
    · obtain ⟨before, isBefore, sameParent, -⟩ := old name other isNew known
      obtain ⟨parentBefore, isParentBefore, -⟩ := forest.listed isBefore (sameParent ▸ isParent)
      rw [newRank_of_ne isNew, newRank_of_ne (known_ne _ _ isParentBefore)]
      exact forest.rank_lt isBefore (sameParent ▸ isParent)
  · intro name other known
    rw [bound]
    by_cases isNew : name = new
    · simp [newRank, isNew]
    · obtain ⟨before, isBefore, -⟩ := old name other isNew known
      rw [newRank_of_ne isNew]
      exact Nat.lt_succ_of_lt (forest.rank_bound isBefore)

section Shape

variable {book changed : RuleBook} (same : SameShape book changed)

include same

theorem SameShape.hasClass (name : String) : changed.hasClass name = book.hasClass name := by
  unfold RuleBook.hasClass
  rw [contains_eq_isSome_getElem?, contains_eq_isSome_getElem?]
  have related := same.types name
  revert related
  generalize book.atlasObjects[name]? = before
  generalize changed.atlasObjects[name]? = after
  rintro (_ | _) <;> rfl

theorem SameShape.typed
    (typed : ∀ name kit, book.entityFactories[name]? = some kit → book.hasClass name = true) :
    ∀ name kit, changed.entityFactories[name]? = some kit → changed.hasClass name = true := by
  intro name kit known
  rw [same.hasClass]
  cases kit with
  | entity factory =>
    have isFactory : changed.entityFactory name = some factory := by
      rw [RuleBook.entityFactory, known]
    obtain ⟨before, isBefore, -⟩ := same.entityFactory_before isFactory
    unfold RuleBook.entityFactory at isBefore
    cases found : book.entityFactories[name]? with
    | none => simp [found] at isBefore
    | some kit => exact typed name kit found
  | archetype factory =>
    have isFactory : book.archetypeFactory name = some factory := by
      rw [← same.archetypes, RuleBook.archetypeFactory, known]
    unfold RuleBook.archetypeFactory at isFactory
    cases found : book.entityFactories[name]? with
    | none => simp [found] at isFactory
    | some kit => exact typed name kit found

theorem SameShape.entityFactory_eq_none {name : String} (unknown : book.entityFactory name = none) :
    changed.entityFactory name = none := by
  have shapes := same.factories name
  rw [unknown, map_none, map_eq_none_iff] at shapes
  exact shapes

end Shape

theorem sameShape_typed_setEntityFactory {book : RuleBook} {name : String}
    {factory old : EntityFactory} (known : book.entityFactory name = some old)
    (typed : ∀ name kit, book.entityFactories[name]? = some kit → book.hasClass name = true) :
    ∀ other kit, (book.setEntityFactory name factory).entityFactories[other]? = some kit →
      (book.setEntityFactory name factory).hasClass other = true := by
  intro other kit isKit
  change (book.entityFactories.insert name (.entity factory))[other]? = some kit at isKit
  rw [getElem?_insert] at isKit
  split_ifs at isKit with isSame
  · rw [Std.LawfulEqCmp.compare_eq_iff_eq] at isSame
    subst isSame
    unfold entityFactory at known
    cases found : book.entityFactories[name]? with
    | none => simp [found] at known
    | some kit => exact typed name kit found
  · exact typed other kit isKit

section

variable {book : RuleBook} {name parent : String}

theorem newEntityFactory_fresh {factory : EntityFactory}
    (new : book.newEntityFactory name parent = .inl factory) :
    factory.classAttributes = ∅ ∧ factory.children = [] ∧
      ((parent = "game_entity" ∧ factory.parent = none ∧ factory.attributes = ∅) ∨
        (parent ≠ "game_entity" ∧ factory.parent = some parent ∧
          ∃ parentFactory, book.entityFactory parent = some parentFactory)) := by
  unfold newEntityFactory at new
  by_cases isRoot : parent = "game_entity"
  · simp only [isRoot, if_true] at new
    split_ifs at new
    obtain rfl := Sum.inl.inj new
    exact ⟨rfl, rfl, Or.inl ⟨isRoot, rfl, rfl⟩⟩
  · simp only [isRoot, if_false] at new
    cases isParent : book.entityFactory parent with
    | none => simp [isParent] at new
    | some parentFactory =>
      simp only [isParent] at new
      split_ifs at new <;>
        · obtain rfl := Sum.inl.inj new
          exact ⟨rfl, rfl, Or.inr ⟨isRoot, rfl, parentFactory, rfl⟩⟩

theorem newEntityFactory_attributes
    {factory parentFactory : EntityFactory} (new : book.newEntityFactory name parent = .inl factory)
    (notRoot : parent ≠ "game_entity") (known : book.entityFactory parent = some parentFactory) :
    factory.attributes = if name ∈ predefinedFactories then ∅ else parentFactory.attributes := by
  unfold newEntityFactory at new
  simp only [notRoot, if_false, known] at new
  split_ifs at new with predefined <;>
    · obtain rfl := Sum.inl.inj new
      simp [predefined]

end

/-- `game_entity` has no factory. -/
structure Planted (book : RuleBook) : Prop where
  forest : ∃ rank, book.Forest rank
  typed : ∀ name kit, book.entityFactories[name]? = some kit → book.hasClass name = true
  gameEntity : book.hasClass "game_entity" = true
  noFactory : book.entityFactory "game_entity" = none

theorem Planted.sameShape {book changed : RuleBook} (planted : book.Planted)
    (same : SameShape book changed) : changed.Planted where
  forest := by
    obtain ⟨rank, forest⟩ := planted.forest
    exact ⟨rank, forest.sameShape same⟩
  typed := same.typed planted.typed
  gameEntity := (same.hasClass _).trans planted.gameEntity
  noFactory := same.entityFactory_eq_none planted.noFactory

theorem Planted.updateProperties {book : RuleBook} (planted : book.Planted) {name : String}
    {factory : EntityFactory} (known : book.entityFactory name = some factory)
    (changes : Changes) :
    (updateProperties book.depthBound (book, changes) name).1.Planted := by
  obtain ⟨rank, forest⟩ := planted.forest
  have cleaned := updateProperties_cleaned forest known changes (Nat.le_add_right _ (rank name))
  exact planted.sameShape cleaned.sameShape

section Join

variable {book changed : RuleBook} {obj : Description} {factory : EntityFactory}
  (planted : book.Planted)
  (newClass : NewClass book changed obj (.entity factory) factory.attributes)
  (noChildren : factory.children = [])

include planted newClass

omit planted in
theorem NewClass.hasClass {name : String} (known : book.hasClass name = true) :
    changed.hasClass name = true := by
  obtain ⟨node, isNode⟩ := getElem?_of_hasClass known
  obtain ⟨changedNode, isChanged, -⟩ := newClass.before isNode
  exact hasClass_of_getElem? isChanged

theorem NewClass.typed (name : String) (kit : EntityKit)
    (known : changed.entityFactories[name]? = some kit) : changed.hasClass name = true := by
  rw [newClass.kits] at known
  split_ifs at known with isNew
  · subst isNew
    obtain ⟨node, isNode, -⟩ := newClass.type
    exact hasClass_of_getElem? isNode
  · exact newClass.hasClass (planted.typed name kit known)

theorem NewClass.not_gameEntity : obj.id ≠ "game_entity" := by
  intro isGameEntity
  obtain ⟨node, isNode⟩ := getElem?_of_hasClass planted.gameEntity
  rw [← isGameEntity, newClass.new] at isNode
  contradiction

theorem NewClass.noFactory : changed.entityFactory "game_entity" = none := by
  rw [newClass.entityFactory, if_neg (newClass.not_gameEntity planted), planted.noFactory]

include noChildren

variable {rank : String → Nat}

theorem NewClass.forest_root (forest : book.Forest rank)
    (noParent : factory.parent = none) : changed.Forest (book.newRank rank obj.id) := by
  have isNew : changed.entityFactory obj.id = some factory := by
    rw [newClass.entityFactory, if_pos rfl]
  apply forest.extend (newClass.unknown planted.typed) isNew noChildren
  · intro parent isParent
    rw [noParent] at isParent
    contradiction
  · intro name before known
    have notNew : obj.id ≠ name := by
      rintro rfl
      rw [newClass.unknown planted.typed] at known
      contradiction
    exact ⟨before, by rw [newClass.entityFactory, if_neg notNew, known]⟩
  · intro name other notNew known
    exact ⟨other, newClass.factory_of_ne notNew known, rfl, by simp [noParent]⟩
  · exact newClass.depthBound
  · intro name other known
    by_cases isSame : name = obj.id
    · subst isSame
      rw [isNew] at known
      obtain rfl := Option.some.inj known
      rw [noChildren]
      exact List.nodup_nil
    · exact forest.nodup (newClass.factory_of_ne isSame known)
  · exact newClass.typedNode forest

theorem NewClass.planted_root (noParent : factory.parent = none) : changed.Planted := by
  obtain ⟨rank, forest⟩ := planted.forest
  exact
    { forest := ⟨_, newClass.forest_root planted noChildren forest noParent⟩
      typed := newClass.typed planted
      gameEntity := newClass.hasClass planted.gameEntity
      noFactory := newClass.noFactory planted }

omit planted noChildren in
theorem NewClass.joined_entityFactory (parent : EntityFactory) (name : String) :
    (changed.setEntityFactory obj.parent parent).entityFactory name =
      if obj.parent = name then some parent
      else if obj.id = name then some factory else book.entityFactory name := by
  rw [entityFactory_setEntityFactory, newClass.entityFactory]

variable {parentFactory : EntityFactory}

theorem NewClass.forest_child (forest : book.Forest rank)
    (isParent : factory.parent = some obj.parent)
    (isParentFactory : book.entityFactory obj.parent = some parentFactory) :
    (changed.setEntityFactory obj.parent
      { parentFactory with children := parentFactory.children ++ [obj.id] }).Forest
        (book.newRank rank obj.id) := by
  have unknown := newClass.unknown planted.typed
  have parentChanged : changed.entityFactory obj.parent = some parentFactory := by
    rw [newClass.entityFactory, if_neg newClass.different, isParentFactory]
  apply forest.extend unknown _ noChildren
  · intro other isOther
    rw [isParent] at isOther
    exact ⟨parentFactory, Option.some.inj isOther ▸ isParentFactory⟩
  · intro name before known
    rw [newClass.joined_entityFactory]
    split_ifs
    · exact ⟨_, rfl⟩
    · exact ⟨factory, rfl⟩
    · exact ⟨before, known⟩
  · intro name other notNew known
    rw [newClass.joined_entityFactory] at known
    split_ifs at known with isSame isNew
    · obtain rfl := Option.some.inj known
      subst isSame
      refine ⟨parentFactory, isParentFactory, rfl, ?_⟩
      intro child
      rw [isParent, List.mem_append, List.mem_singleton]
      simp
    · exact absurd isNew.symm notNew
    · refine ⟨other, known, rfl, ?_⟩
      intro child
      rw [isParent, Option.some.injEq]
      simp [isSame]
  · rw [depthBound_setEntityFactory _ parentChanged, newClass.depthBound]
  · intro name other known
    rw [newClass.joined_entityFactory] at known
    split_ifs at known with isSame isNew
    · obtain rfl := Option.some.inj known
      rw [List.nodup_append]
      refine ⟨forest.nodup isParentFactory, List.nodup_singleton _, ?_⟩
      rintro child isChild new isNew rfl
      rw [List.mem_singleton] at isNew
      subst isNew
      -- a new class is not listed yet
      obtain ⟨childFactory, isChildFactory, -⟩ := forest.child isParentFactory isChild
      rw [unknown] at isChildFactory
      contradiction
    · obtain rfl := Option.some.inj known
      rw [noChildren]
      exact List.nodup_nil
    · exact forest.nodup known
  · intro name other known
    have wasKnown : ∃ before, changed.entityFactory name = some before := by
      rw [entityFactory_setEntityFactory] at known
      split_ifs at known with isSame
      · exact ⟨parentFactory, isSame ▸ parentChanged⟩
      · exact ⟨other, known⟩
    obtain ⟨before, isBefore⟩ := wasKnown
    exact newClass.typedNode forest isBefore
  · rw [newClass.joined_entityFactory, if_neg (Ne.symm newClass.different), if_pos rfl]

theorem NewClass.planted_child
    (isParent : factory.parent = some obj.parent)
    (isParentFactory : book.entityFactory obj.parent = some parentFactory) :
    (changed.setEntityFactory obj.parent
      { parentFactory with children := parentFactory.children ++ [obj.id] }).Planted := by
  obtain ⟨rank, forest⟩ := planted.forest
  have parentChanged : changed.entityFactory obj.parent = some parentFactory := by
    rw [newClass.entityFactory, if_neg newClass.different, isParentFactory]
  refine
    { forest := ⟨_, newClass.forest_child planted noChildren forest isParent isParentFactory⟩
      typed := sameShape_typed_setEntityFactory parentChanged (newClass.typed planted)
      gameEntity := newClass.hasClass planted.gameEntity
      noFactory := ?_ }
  rw [newClass.joined_entityFactory, if_neg, if_neg (newClass.not_gameEntity planted),
    planted.noFactory]
  intro isGameEntity
  rw [isGameEntity, planted.noFactory] at isParentFactory
  contradiction

end Join

end RuleBook

end Cyphesis.Ruleset
