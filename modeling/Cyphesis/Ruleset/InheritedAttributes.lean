import Cyphesis.Ruleset.NewClass
import Cyphesis.Foundation.Run

/-!
# Inherited attributes

The attributes of a factory are the class attributes of its ancestors, combined from the root down,
and the default properties of the type agree with them.
-/

namespace Cyphesis.Ruleset

open Std (ExtTreeMap)
open Cyphesis.Atlas List Option
open Cyphesis.Common
open Cyphesis.Foundation

namespace RuleBook

/-- All its classes are clean. -/
structure Sound (book : RuleBook) : Prop extends book.Planted where
  lawful : book.LawfulTypes
  clean : ∀ name, book.Clean name

theorem Planted.sound_updateProperties {book : RuleBook} (planted : book.Planted) {name : String}
    {factory : EntityFactory} (known : book.entityFactory name = some factory)
    (lawful : book.LawfulTypes) (consistent : book.Consistent name)
    (clean : ∀ other, book.Clean other ∨ other = name ∨ other ∈ factory.children)
    (changes : Changes) :
    (RuleBook.updateProperties book.depthBound (book, changes) name).1.Sound := by
  obtain ⟨rank, forest⟩ := planted.forest
  have cleaned := updateProperties_cleaned forest known changes (Nat.le_add_right _ (rank name))
  refine
    { planted.sameShape cleaned.sameShape with
      lawful := lawful.sameShape cleaned.sameShape
      clean := ?_ }
  intro other
  have status := cleaned.cleans lawful ∅ consistent (fun other => ?_) other
  · simpa using status
  · rcases clean other with isClean | isName | isChild
    · exact Or.inl isClean
    · exact Or.inr (Or.inl isName)
    · exact Or.inr (Or.inr (Or.inl ⟨factory, known, isChild⟩))

section Join

variable {book changed : RuleBook} {obj : Description} {factory : EntityFactory}
  (sound : book.Sound) (newClass : NewClass book changed obj (.entity factory) factory.attributes)
  (noChildren : factory.children = [])

include sound newClass noChildren

theorem NewClass.sound_root (noParent : factory.parent = none)
    (own : factory.attributes = factory.classAttributes.foldl combineInto ∅) : changed.Sound := by
  obtain ⟨rank, forest⟩ := sound.forest
  have isNew : changed.entityFactory obj.id = some factory := by
    rw [newClass.entityFactory, if_pos rfl]
  refine
    { newClass.planted_root sound.toPlanted noChildren noParent with
      lawful := newClass.lawfulTypes forest sound.lawful
      clean := ?_ }
  intro name
  by_cases isSame : name = obj.id
  · subst isSame
    refine ⟨?_, newClass.typeAgrees⟩
    intro current isCurrent
    rw [isNew] at isCurrent
    obtain rfl := Option.some.inj isCurrent
    rw [inherited, noParent, bind_none]
    exact own
  · exact newClass.clean sound.typed forest isSame (sound.clean name)

/-- A class below a known one makes a sound book. -/
theorem NewClass.sound_child {parentFactory : EntityFactory}
    (isParent : factory.parent = some obj.parent)
    (isParentFactory : book.entityFactory obj.parent = some parentFactory) (changes : Changes) :
    (changed.joinParent changes obj.id obj.parent).1.Sound := by
  obtain ⟨rank, forest⟩ := sound.forest
  have parentChanged : changed.entityFactory obj.parent = some parentFactory := by
    rw [newClass.entityFactory, if_neg newClass.different, isParentFactory]
  have planted := newClass.planted_child sound.toPlanted noChildren isParent isParentFactory
  rw [joinParent, parentChanged]
  dsimp only
  have factories := newClass.joined_entityFactory
    { parentFactory with children := parentFactory.children ++ [obj.id] }
  have lawful : (changed.setEntityFactory obj.parent
      { parentFactory with children := parentFactory.children ++ [obj.id] }).LawfulTypes := by
    intro name other node known isNode
    have wasKnown : ∃ before, changed.entityFactory name = some before := by
      rw [entityFactory_setEntityFactory] at known
      split_ifs at known with isSame
      · exact ⟨parentFactory, isSame ▸ parentChanged⟩
      · exact ⟨other, known⟩
    obtain ⟨before, isBefore⟩ := wasKnown
    exact newClass.lawfulTypes forest sound.lawful name before node isBefore isNode
  -- What a class inherits does not change: the parent keeps its attributes.
  have sameInherited : ∀ other : EntityFactory, other.parent ≠ some obj.id →
      (changed.setEntityFactory obj.parent { parentFactory with
        children := parentFactory.children ++ [obj.id] }).inherited other =
          book.inherited other := by
    intro other notNew
    unfold inherited
    cases isOtherParent : other.parent with
    | none => rfl
    | some otherParent =>
      rw [bind_some, bind_some, factories]
      split_ifs with isSame isNew
      · rw [← isSame, isParentFactory]
      · exact absurd (isNew ▸ isOtherParent) notNew
      · rfl
  have parentKnown := (factories obj.parent).trans (if_pos rfl)
  apply planted.sound_updateProperties parentKnown lawful
  · intro current isCurrent
    rw [parentKnown] at isCurrent
    obtain rfl := Option.some.inj isCurrent
    have notNew : parentFactory.parent ≠ some obj.id :=
      newClass.not_parent sound.typed forest isParentFactory
    rw [sameInherited { parentFactory with children := parentFactory.children ++ [obj.id] } notNew]
    exact (sound.clean obj.parent).1 parentFactory isParentFactory
  · intro other
    by_cases isParentName : other = obj.parent
    · exact Or.inr (Or.inl isParentName)
    by_cases isNew : other = obj.id
    · exact Or.inr (Or.inr (mem_append_right _ (List.mem_singleton.mpr isNew)))
    · left
      refine (sound.clean other).congr ?_ (newClass.defaults other isNew) ?_ newClass.manager
      · rw [factories, if_neg (Ne.symm isParentName), if_neg (Ne.symm isNew)]
      · intro otherFactory known
        exact sameInherited otherFactory (newClass.not_parent sound.typed forest known)

end Join

section

variable {book : RuleBook} (sound : book.Sound) {changes : Changes} {obj : Description}
  {result : RuleBook × Changes}

include sound

theorem Sound.installEntityClass
    (installed : book.installEntityClass changes obj = .installed result) : result.1.Sound := by
  unfold RuleBook.installEntityClass at installed
  cases isNew : book.newEntityFactory obj.id obj.parent with
  | inr reason => simp [isNew] at installed
  | inl fresh =>
    simp only [isNew] at installed
    cases isInstalled : book.installFactory obj (.entity (fresh.populate obj)) with
    | none => simp [isInstalled] at installed
    | some entered =>
      simp only [isInstalled, InstallResult.installed.injEq] at installed
      subst installed
      have newClass := installFactory_newClass sound.typed isInstalled
        (fresh.populate obj).attributes
      obtain ⟨noClassAttributes, noChildren, kind⟩ := newEntityFactory_fresh isNew
      obtain ⟨sameParent, sameChildren⟩ := fresh.populate_parent obj
      rcases kind with ⟨isRoot, noParent, noAttributes⟩ | ⟨-, isParent, parentFactory, isKnown⟩
      · have joined : (entered.addProperties obj.id (fresh.populate obj).attributes).joinParent
            changes obj.id obj.parent =
            (entered.addProperties obj.id (fresh.populate obj).attributes, changes) := by
          rw [joinParent, isRoot, newClass.noFactory sound.toPlanted]
        rw [joined]
        refine newClass.sound_root sound (sameChildren.trans noChildren)
          (sameParent.trans noParent) ?_
        rw [EntityFactory.populate_attributes noClassAttributes obj, noAttributes]
      · exact newClass.sound_child sound (sameChildren.trans noChildren)
          (sameParent.trans isParent) isKnown changes

/-- A modification keeps it sound. -/
theorem Sound.modifyEntityClass
    (modified : book.modifyEntityClass changes obj = some result) : result.1.Sound := by
  obtain ⟨rank, forest⟩ := sound.forest
  unfold RuleBook.modifyEntityClass at modified
  cases known : book.entityFactory obj.id with
  | none => simp [known] at modified
  | some factory =>
    rw [known] at modified
    obtain rfl := Option.some.inj modified
    change (RuleBook.updateProperties (book.setEntityFactory obj.id
        ({ factory with attributes := book.inherited factory, classAttributes := ∅
          }.populate obj)).depthBound
      (book.setEntityFactory obj.id
        ({ factory with attributes := book.inherited factory, classAttributes := ∅
          }.populate obj), changes) obj.id).1.Sound
    generalize isCleared :
      { factory with attributes := book.inherited factory, classAttributes := ∅ } = cleared
    have clearedFields : cleared.parent = factory.parent ∧ cleared.children = factory.children ∧
        cleared.attributes = book.inherited factory ∧ cleared.classAttributes = ∅ := by
      rw [← isCleared]
      exact ⟨rfl, rfl, rfl, rfl⟩
    obtain ⟨clearedParent, clearedChildren, clearedAttributes, noClassAttributes⟩ := clearedFields
    obtain ⟨sameParent, sameChildren⟩ := cleared.populate_parent obj
    have shapes : shape (cleared.populate obj) = shape factory := by
      rw [shape, shape, sameParent, sameChildren, clearedParent, clearedChildren]
    have same := sameShape_setEntityFactory known shapes
    have nowKnown : (book.setEntityFactory obj.id (cleared.populate obj)).entityFactory obj.id =
        some (cleared.populate obj) := by
      rw [entityFactory_setEntityFactory, if_pos rfl]
    refine (sound.toPlanted.sameShape same).sound_updateProperties nowKnown
      (sound.lawful.sameShape same) ?_ ?_ changes
    · intro current isCurrent
      rw [nowKnown] at isCurrent
      obtain rfl := Option.some.inj isCurrent
      have inheritedSame : (book.setEntityFactory obj.id (cleared.populate obj)).inherited
          (cleared.populate obj) = book.inherited factory := by
        unfold inherited
        rw [sameParent, clearedParent]
        cases isParent : factory.parent with
        | none => rfl
        | some parent =>
          have notSelf : obj.id ≠ parent := by
            rintro rfl
            exact absurd (forest.rank_lt known isParent) (Nat.lt_irrefl _)
          rw [bind_some, bind_some, entityFactory_setEntityFactory, if_neg notSelf]
      rw [inheritedSame, EntityFactory.populate_attributes noClassAttributes obj,
        clearedAttributes]
    · intro other
      by_cases isName : other = obj.id
      · exact Or.inr (Or.inl isName)
      by_cases isChild : other ∈ (cleared.populate obj).children
      · exact Or.inr (Or.inr isChild)
      · left
        refine (sound.clean other).setEntityFactory isName _ ?_
        intro otherFactory isOther isParent
        obtain ⟨parentFactory, isParentFactory, listed⟩ := forest.listed isOther isParent
        rw [known] at isParentFactory
        obtain rfl := Option.some.inj isParentFactory
        rw [sameChildren, clearedChildren] at isChild
        exact isChild listed

end

/-- Classes from the root down to the class. -/
inductive AncestorChain (book : RuleBook) : String → List String → Prop
  | root {name : String} {factory : EntityFactory} :
      book.entityFactory name = some factory → factory.parent = none →
        AncestorChain book name [name]
  | child {name parent : String} {factory : EntityFactory} {chain : List String} :
      book.entityFactory name = some factory → factory.parent = some parent →
      AncestorChain book parent chain → AncestorChain book name (chain ++ [name])

/-- Combine those of one class. -/
def combineClass (book : RuleBook) (attributes : MapType) (name : String) : MapType :=
  match book.entityFactory name with
  | some factory => factory.classAttributes.foldl combineInto attributes
  | none => attributes

theorem Sound.attributes_eq_fold {book : RuleBook} (sound : book.Sound) {name : String}
    {factory : EntityFactory} (known : book.entityFactory name = some factory) :
    ∃ chain, AncestorChain book name chain ∧
      factory.attributes = chain.foldl book.combineClass ∅ := by
  obtain ⟨rank, forest⟩ := sound.forest
  induction height : rank name using Nat.strong_induction_on generalizing name factory with
  | _ height' ih =>
    have consistent := (sound.clean name).1 factory known
    cases isParent : factory.parent with
    | none =>
      refine ⟨[name], .root known isParent, ?_⟩
      rw [consistent, inherited, isParent, foldl_cons, foldl_nil, combineClass, known, bind_none]
    | some parent =>
      obtain ⟨parentFactory, isParentFactory, -⟩ := forest.listed known isParent
      have lower := forest.rank_lt known isParent
      obtain ⟨chain, isChain, fold⟩ := ih (rank parent) (height ▸ lower) isParentFactory rfl
      refine ⟨chain ++ [name], .child known isParent isChain, ?_⟩
      rw [consistent, inherited, isParent, bind_some, isParentFactory, foldl_append,
        ← fold, foldl_cons, foldl_nil, combineClass, known]

/-- What the handler is asked to do. -/
inductive ClassAction where
  | install (description : Description)
  | modify (description : Description)

/-- An unsuccessful request changes nothing. -/
def classStep (state : RuleBook × Changes) : ClassAction → RuleBook × Changes
  | .install description =>
    match state.1.installEntityClass state.2 description with
    | .installed result => result
    | _ => state
  | .modify description => (state.1.modifyEntityClass state.2 description).getD state

/-- A book before any entity class is installed. -/
structure Unruled (book : RuleBook) : Prop where
  noClasses : ∀ name, book.entityFactory name = none
  typed : ∀ name kit, book.entityFactories[name]? = some kit → book.hasClass name = true
  gameEntity : book.hasClass "game_entity" = true

theorem Unruled.sound {book : RuleBook} (unruled : book.Unruled) : book.Sound where
  forest := by
    refine ⟨fun _ => 0, ?_, ?_, ?_, ?_, ?_, ?_⟩ <;>
      · intros
        simp_all [unruled.noClasses]
  lawful name factory node known := by
    rw [unruled.noClasses] at known
    contradiction
  clean name := by
    constructor
    · intro factory known
      rw [unruled.noClasses] at known
      contradiction
    · intro factory node known
      rw [unruled.noClasses] at known
      contradiction
  typed := unruled.typed
  gameEntity := unruled.gameEntity
  noFactory := unruled.noClasses "game_entity"

theorem Sound.classStep {state : RuleBook × Changes} (sound : state.1.Sound)
    (action : ClassAction) : (RuleBook.classStep state action).1.Sound := by
  cases action with
  | install description =>
    cases result : state.1.installEntityClass state.2 description with
    | installed next =>
      simp only [RuleBook.classStep, result]
      exact sound.installEntityClass result
    | failed =>
      simp only [RuleBook.classStep, result]
      exact sound
    | waits dependent reason =>
      simp only [RuleBook.classStep, result]
      exact sound
  | modify description =>
    cases result : state.1.modifyEntityClass state.2 description with
    | none =>
      simp only [RuleBook.classStep, result, getD_none]
      exact sound
    | some next =>
      simp only [RuleBook.classStep, result, getD_some]
      exact sound.modifyEntityClass result

/-- After any batches of rules, the attributes of a class are those of its ancestors, folded from
the root. -/
theorem run_attributes_eq_fold {book : RuleBook} (unruled : book.Unruled) (changes : Changes)
    (actions : List ClassAction) {name : String} {factory : EntityFactory}
    (known : (run classStep (book, changes) actions).1.entityFactory name = some factory) :
    (∃ chain, AncestorChain (run classStep (book, changes) actions).1 name chain ∧
      factory.attributes = chain.foldl (run classStep (book, changes) actions).1.combineClass ∅) ∧
    ∃ node, (run classStep (book, changes) actions).1.atlasObjects[name]? = some node ∧
      node.Agrees (run classStep (book, changes) actions).1.propertyFactories
        factory.attributes := by
  have sound : (run classStep (book, changes) actions).1.Sound :=
    run_invariant_of_step (fun state : RuleBook × Changes => state.1.Sound)
      (fun _ action sound => sound.classStep action) unruled.sound actions
  obtain ⟨rank, forest⟩ := sound.forest
  obtain ⟨node, isNode⟩ := forest.typed known
  exact ⟨sound.attributes_eq_fold known, node, isNode,
    (sound.clean name).2 factory node known isNode⟩

theorem builtinBook_unruled : builtinBook.Unruled where
  noClasses name := by
    unfold entityFactory builtinBook
    by_cases isArchetype : "archetype" = name <;> simp [isArchetype]
  typed name kit known := by
    unfold builtinBook at known
    by_cases isArchetype : "archetype" = name
    · subst isArchetype
      decide +kernel
    · simp [isArchetype] at known
  gameEntity := by decide +kernel

/-- An invalid name never becomes a property. -/
theorem thing_invalid_attribute :
    let book := (run classStep (builtinBook, ∅)
      [.install (classRule "thing" "game_entity" "bad name" (.int 1))]).1
    (book.entityFactory "thing").any (fun factory => factory.attributes.contains "bad name") =
      true ∧
      (book.atlasObjects["thing"]?).any (fun node => !node.defaults.contains "bad name") =
        true := by
  decide +kernel

theorem apple_attributes_eq_fold :
    ∃ factory, (run classStep (builtinBook, ∅)
        [.install (classRule "thing" "game_entity" "mass" (.int 1)),
          .install (classRule "apple" "thing" "mass" (.int 2))]).1.entityFactory "apple" =
        some factory ∧
      ∃ chain, AncestorChain (run classStep (builtinBook, ∅)
          [.install (classRule "thing" "game_entity" "mass" (.int 1)),
            .install (classRule "apple" "thing" "mass" (.int 2))]).1 "apple" chain ∧
        factory.attributes = chain.foldl (run classStep (builtinBook, ∅)
          [.install (classRule "thing" "game_entity" "mass" (.int 1)),
            .install (classRule "apple" "thing" "mass" (.int 2))]).1.combineClass ∅ := by
  have known : ((run classStep (builtinBook, ∅)
      [.install (classRule "thing" "game_entity" "mass" (.int 1)),
        .install (classRule "apple" "thing" "mass" (.int 2))]).1.entityFactory "apple").isSome =
      true := by
    decide +kernel
  obtain ⟨factory, isFactory⟩ := Option.isSome_iff_exists.mp known
  exact ⟨factory, isFactory, (run_attributes_eq_fold builtinBook_unruled ∅ _ isFactory).1⟩

/-- The same parents and own attributes, up to the root. -/
inductive SameLineage (first second : RuleBook) : String → Prop
  | intro {name : String} {factory other : EntityFactory} :
      first.entityFactory name = some factory → second.entityFactory name = some other →
      factory.classAttributes = other.classAttributes → factory.parent = other.parent →
      (∀ parent, factory.parent = some parent → SameLineage first second parent) →
      SameLineage first second name

/-- What a class inherits depends on its lineage only. -/
def SameInheritance (first second : RuleBook) : Prop :=
  ∀ name, SameLineage first second name →
    (first.entityFactory name).map EntityFactory.attributes =
      (second.entityFactory name).map EntityFactory.attributes

theorem Sound.sameInheritance {first second : RuleBook} (sound : first.Sound)
    (soundSecond : second.Sound) : SameInheritance first second := by
  intro name same
  induction same with
  | @intro name factory other known knownOther sameOwn sameParent _ ih =>
    have inherits : first.inherited factory = second.inherited other := by
      unfold inherited
      rw [← sameParent]
      cases isParent : factory.parent with
      | none => rfl
      | some parent =>
        have above := ih parent isParent
        rw [bind_some, bind_some]
        cases left : first.entityFactory parent <;>
          cases right : second.entityFactory parent <;> simp_all
    rw [known, knownOther, map_some, map_some, (sound.clean name).1 factory known,
      (soundSecond.clean name).1 other knownOther, sameOwn, inherits]

theorem run_sound (start : { book : RuleBook // book.Unruled }) (changes : Changes)
    (actions : List ClassAction) : (run classStep (start.1, changes) actions).1.Sound :=
  run_invariant_of_step (fun state : RuleBook × Changes => state.1.Sound)
    (fun _ action sound => sound.classStep action) start.2.sound actions

/-- Two runs that leave the same chain of rules leave the same merged attributes. -/
theorem run_sameInheritance (first second : { book : RuleBook // book.Unruled })
    (changes others : Changes) (actions otherActions : List ClassAction) :
    SameInheritance (run classStep (first.1, changes) actions).1
      (run classStep (second.1, others) otherActions).1 :=
  (run_sound first changes actions).sameInheritance (run_sound second others otherActions)

/-- Parents and children of classes agree, and no class is above itself. -/
theorem run_classForest (start : { book : RuleBook // book.Unruled }) (changes : Changes)
    (actions : List ClassAction) :
    ∃ rank, (run classStep (start.1, changes) actions).1.Forest rank :=
  (run_sound start changes actions).forest

end RuleBook

end Cyphesis.Ruleset
