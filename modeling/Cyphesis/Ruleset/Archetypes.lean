import Cyphesis.Ruleset.ArchetypeUpdates
import Cyphesis.Ruleset.InheritedAttributes

/-!
# Inherited archetypes

Archetypes are installed and modified one after the other.
-/

namespace Cyphesis.Ruleset

open Std (ExtTreeMap)
open Cyphesis.Atlas List Option Std.ExtTreeMap
open Cyphesis.Foundation
open Function

namespace RuleBook

/-- A new archetype below another one. -/
def newArchetype (parentFactory : ArchetypeFactory) (rule : Description) : ArchetypeFactory :=
  { entities := overlay parentFactory.entities rule.ownEntities
    thoughts := parentFactory.thoughts ++ rule.ownThoughts
    classEntities := rule.ownEntities
    classThoughts := rule.ownThoughts
    parent := some rule.parent
    children := [] }

theorem populate_newArchetype (parentFactory : ArchetypeFactory) (rule : Description) :
    ({ parentFactory with
      classEntities := ∅
      classThoughts := []
      parent := some rule.parent
      children := [] } : ArchetypeFactory).populate rule = newArchetype parentFactory rule := by
  rw [ArchetypeFactory.populate_eq _ _ rfl rfl]
  rfl

/-- The book with one class more, which is under its parent. -/
structure Grafted (book changed : RuleBook) (rule : Description)
    (parentFactory : ArchetypeFactory) : Prop where
  parentKnown : book.archetypeFactory rule.parent = some parentFactory
  new : book.archetypeFactory rule.id = none
  different : rule.id ≠ rule.parent
  factories : ∀ name, changed.archetypeFactory name =
    if rule.parent = name then
      some { parentFactory with children := parentFactory.children ++ [rule.id] }
    else if rule.id = name then some (newArchetype parentFactory rule)
    else book.archetypeFactory name
  typed : ∀ name kit, changed.entityFactories[name]? = some kit → changed.hasClass name = true
  depthBound : changed.depthBound = book.depthBound + 1
  type : ∃ node, changed.atlasObjects[rule.id]? = some node ∧ ∀ name : String,
    node.defaults[name]? = (newArchetype parentFactory rule).attributes[name]?.bind
      (TypeNode.madeDefault book.propertyFactories name)
  before : ∀ name node, name ≠ rule.id → book.atlasObjects[name]? = some node →
    ∃ changedNode, changed.atlasObjects[name]? = some changedNode ∧
      changedNode.defaults = node.defaults
  manager : changed.propertyFactories = book.propertyFactories

theorem installArchetypeClass_grafted {book : RuleBook}
    (typed : ∀ name kit, book.entityFactories[name]? = some kit → book.hasClass name = true)
    {changes : Changes} {rule : Description} {result : RuleBook × Changes}
    (installed : book.installArchetypeClass changes rule = .installed result) :
    ∃ parentFactory, Grafted book result.1 rule parentFactory := by
  unfold installArchetypeClass at installed
  cases parentKnown : book.archetypeFactory rule.parent with
  | none => simp [parentKnown] at installed
  | some parentFactory =>
    simp only [parentKnown] at installed
    rw [populate_newArchetype] at installed
    split at installed
    case h_1 => simp at installed
    case h_2 added isInstalled =>
        have newClass := installFactory_newClass typed isInstalled
          (newArchetype parentFactory rule).attributes
        have noFactory : book.archetypeFactory rule.id = none := by
          cases found : book.archetypeFactory rule.id with
          | none => rfl
          | some factory =>
            obtain ⟨node, isNode⟩ := getElem?_of_hasClass
              (typed _ _ (isSome_kit_of_archetypeFactory found))
            rw [newClass.new] at isNode
            contradiction
        have archetypes (name : String) : (added.addProperties rule.id
            (newArchetype parentFactory rule).attributes).archetypeFactory name =
              if rule.id = name then some (newArchetype parentFactory rule)
              else book.archetypeFactory name := by
          unfold archetypeFactory
          rw [newClass.kits]
          split_ifs
          · rfl
          · rfl
        have isJoined := archetypes rule.parent
        rw [if_neg newClass.different, parentKnown] at isJoined
        rw [isJoined] at installed
        obtain rfl := InstallResult.installed.inj installed
        refine ⟨parentFactory, ?_⟩
        refine
          { parentKnown := parentKnown
            new := noFactory
            different := newClass.different
            factories := ?_
            typed := ?_
            depthBound := ?_
            type := ?_
            before := ?_
            manager := newClass.manager }
        · intro name
          exact (archetypeFactory_setArchetypeFactory _ rule.parent name _).trans
            (by rw [archetypes])
        · intro name kit known
          change ((added.addProperties rule.id _).entityFactories.insert rule.parent _)[name]? =
            some kit at known
          rw [ExtTreeMap.getElem?_insert] at known
          split_ifs at known with isParent
          · rw [Std.LawfulEqCmp.compare_eq_iff_eq] at isParent
            subst isParent
            obtain ⟨node, isNode⟩ := getElem?_of_hasClass newClass.parentKnown
            obtain ⟨changedNode, isChanged, -⟩ := newClass.before isNode
            exact hasClass_of_getElem? isChanged
          · rw [newClass.kits] at known
            split_ifs at known with isNew
            · subst isNew
              obtain ⟨node, isNode, -⟩ := newClass.type
              exact hasClass_of_getElem? isNode
            · obtain ⟨node, isNode⟩ := getElem?_of_hasClass (typed name kit known)
              obtain ⟨changedNode, isChanged, -⟩ := newClass.before isNode
              exact hasClass_of_getElem? isChanged
        · rw [← newClass.depthBound]
          exact depthBound_setArchetypeFactory isJoined _
        · obtain ⟨node, isNode, -⟩ := newClass.type
          exact ⟨node, isNode, newClass.made node isNode⟩
        · intro name node _ isNode
          obtain ⟨changedNode, isChanged, same, -⟩ := newClass.before isNode
          exact ⟨changedNode, isChanged, same⟩

/-- A new one ranks above all others. -/
def grownRank (rank : String → Nat) (book : RuleBook) (new : String) (name : String) : Nat :=
  if name = new then book.depthBound else rank name

namespace Grafted

variable {book changed : RuleBook} {rule : Description} {parentFactory : ArchetypeFactory}
  (grafted : Grafted book changed rule parentFactory)

include grafted

theorem newKnown : changed.archetypeFactory rule.id = some (newArchetype parentFactory rule) := by
  rw [grafted.factories, if_neg (Ne.symm grafted.different), if_pos rfl]

variable {name : String}

theorem of_old {factory : ArchetypeFactory} (isOld : name ≠ rule.id)
    (known : changed.archetypeFactory name = some factory) :
    ∃ before, book.archetypeFactory name = some before ∧
      factory = { before with children := factory.children } ∧
      ∀ child, child ∈ factory.children ↔
        child ∈ before.children ∨ (name = rule.parent ∧ child = rule.id) := by
  rw [grafted.factories] at known
  split_ifs at known with isParent isNew
  · subst isParent
    obtain rfl := Option.some.inj known
    exact ⟨parentFactory, grafted.parentKnown, rfl, fun child => by simp⟩
  · exact absurd isNew.symm isOld
  · exact ⟨factory, known, rfl, fun child => by simp [Ne.symm isParent]⟩

theorem old_known {before : ArchetypeFactory}
    (known : book.archetypeFactory name = some before) :
    name ≠ rule.id ∧ ∃ factory, changed.archetypeFactory name = some factory ∧
      factory = { before with children := factory.children } ∧
      ∀ child ∈ before.children, child ∈ factory.children := by
  have isOld : name ≠ rule.id := by
    rintro rfl
    rw [grafted.new] at known
    contradiction
  refine ⟨isOld, ?_⟩
  rw [grafted.factories]
  split_ifs with isParent isNew
  · subst isParent
    rw [grafted.parentKnown] at known
    obtain rfl := Option.some.inj known
    exact ⟨_, rfl, rfl, fun child isChild => mem_append_left _ isChild⟩
  · exact absurd isNew.symm isOld
  · exact ⟨before, known, rfl, fun child isChild => isChild⟩

theorem forest {rank : String → Nat} (forest : book.ArchetypeForest rank)
    (noContents : book.propertyFactories.NoContents) :
    changed.ArchetypeForest (grownRank rank book rule.id) where
  listed := by
    intro name factory parent known isParent
    by_cases isOld : name = rule.id
    · subst isOld
      rw [grafted.newKnown] at known
      obtain rfl := Option.some.inj known
      obtain rfl : rule.parent = parent := Option.some.inj isParent
      rw [grafted.factories, if_pos rfl]
      exact ⟨_, rfl, mem_append_right _ mem_cons_self⟩
    · obtain ⟨before, isBefore, same, -⟩ := grafted.of_old isOld known
      rw [same] at isParent
      obtain ⟨parentBefore, parentKnown, listed⟩ := forest.listed isBefore isParent
      obtain ⟨-, parentFactory, isFactory, -, children⟩ := grafted.old_known parentKnown
      exact ⟨parentFactory, isFactory, children name listed⟩
  child := by
    intro name factory child known isChild
    by_cases isOld : name = rule.id
    · subst isOld
      rw [grafted.newKnown] at known
      obtain rfl := Option.some.inj known
      cases isChild
    · obtain ⟨before, isBefore, -, children⟩ := grafted.of_old isOld known
      rcases (children child).mp isChild with wasChild | ⟨rfl, rfl⟩
      · obtain ⟨childBefore, childKnown, isParent⟩ := forest.child isBefore wasChild
        obtain ⟨-, childFactory, isFactory, same, -⟩ := grafted.old_known childKnown
        refine ⟨childFactory, isFactory, ?_⟩
        rw [same]
        exact isParent
      · exact ⟨_, grafted.newKnown, rfl⟩
  rank_lt := by
    intro name factory parent known isParent
    by_cases isOld : name = rule.id
    · subst isOld
      rw [grafted.newKnown] at known
      obtain rfl := Option.some.inj known
      obtain rfl : rule.parent = parent := Option.some.inj isParent
      rw [grownRank, if_neg (Ne.symm grafted.different), grownRank, if_pos rfl]
      exact forest.rank_bound grafted.parentKnown
    · obtain ⟨before, isBefore, same, -⟩ := grafted.of_old isOld known
      rw [same] at isParent
      obtain ⟨parentBefore, parentKnown, -⟩ := forest.listed isBefore isParent
      rw [grownRank, if_neg (grafted.old_known parentKnown).1, grownRank, if_neg isOld]
      exact forest.rank_lt isBefore isParent
  rank_bound := by
    intro name factory known
    rw [grafted.depthBound, grownRank]
    split_ifs with isNew
    · exact Nat.lt_succ_self _
    · obtain ⟨before, isBefore, -⟩ := grafted.of_old isNew known
      exact Nat.lt_succ_of_lt (forest.rank_bound isBefore)
  typed := by
    intro name factory known
    by_cases isOld : name = rule.id
    · subst isOld
      obtain ⟨node, isNode, made⟩ := grafted.type
      refine ⟨node, isNode, fun key property isContents held => ?_⟩
      rw [made] at held
      obtain ⟨value, -, isMade⟩ := Option.bind_eq_some_iff.mp held
      obtain ⟨fresh, isFresh, plain, -⟩ := madeDefault_publishes isContents noContents value
      rw [isMade] at isFresh
      exact Option.some.inj isFresh ▸ plain
    · obtain ⟨before, isBefore, -⟩ := grafted.of_old isOld known
      obtain ⟨node, isNode, plain⟩ := forest.typed isBefore
      obtain ⟨changedNode, isChanged, same⟩ := grafted.before name node isOld isNode
      refine ⟨changedNode, isChanged, fun key property isContents held => ?_⟩
      rw [same] at held
      exact plain key property isContents held

theorem published_new (noContents : book.propertyFactories.NoContents) :
    changed.Published rule.id := by
  intro factory known
  rw [grafted.newKnown] at known
  obtain rfl := Option.some.inj known
  obtain ⟨node, isNode, made⟩ := grafted.type
  obtain ⟨isEntities, isThoughts⟩ := (newArchetype parentFactory rule).attributes_getElem?
  refine ⟨node, isNode, ?_, ?_⟩
  · obtain ⟨property, isMade, -, shows⟩ := madeDefault_publishes (.inl rfl) noContents _
    exact ⟨property, (made _).trans (by rw [isEntities]; exact isMade), shows⟩
  · obtain ⟨property, isMade, -, shows⟩ := madeDefault_publishes (.inr rfl) noContents _
    exact ⟨property, (made _).trans (by rw [isThoughts]; exact isMade), shows⟩

theorem published_old (isOld : name ≠ rule.id) (published : book.Published name) :
    changed.Published name := by
  intro factory known
  obtain ⟨before, isBefore, same, -⟩ := grafted.of_old isOld known
  obtain ⟨node, isNode, publishes⟩ := published before isBefore
  obtain ⟨changedNode, isChanged, sameDefaults⟩ := grafted.before name node isOld isNode
  refine ⟨changedNode, isChanged, ?_⟩
  rw [same]
  unfold TypeNode.PublishesContents TypeNode.Publishes at publishes ⊢
  rw [sameDefaults]
  exact publishes

theorem joined (forest : ∃ rank, book.ArchetypeForest rank) (joined : ∀ name, book.Joined ∅ name)
    (name : String) : changed.Joined ∅ name := by
  intro factory parent above known isParent aboveKnown
  by_cases isOld : name = rule.id
  · subst isOld
    rw [grafted.newKnown] at known
    obtain rfl := Option.some.inj known
    obtain rfl : rule.parent = parent := Option.some.inj isParent
    obtain ⟨before, isBefore, same, -⟩ := grafted.of_old (Ne.symm grafted.different) aboveKnown
    rw [grafted.parentKnown] at isBefore
    obtain rfl := Option.some.inj isBefore
    rw [same]
    exact ⟨rfl, fun isLost => isLost.elim, fun _ => rfl⟩
  · obtain ⟨rank, forest⟩ := forest
    obtain ⟨before, isBefore, same, -⟩ := grafted.of_old isOld known
    rw [same] at isParent ⊢
    obtain ⟨aboveBefore, isAbove, -⟩ := forest.listed isBefore isParent
    obtain ⟨-, again, isAgain, sameAbove, -⟩ := grafted.old_known isAbove
    rw [aboveKnown] at isAgain
    obtain rfl := Option.some.inj isAgain
    rw [sameAbove]
    exact joined name before parent aboveBefore isBefore isParent isAbove

end Grafted

end RuleBook

/-- The rules, with the archetype rule that was given last under each name. -/
structure Archetypes where
  book : RuleBook
  rules : String → Option Description

/-- A call of the rule handler for archetypes. -/
inductive ArchetypeAction where
  | install (description : Description)
  | modify (description : Description)

namespace Archetypes

/-- What fails changes nothing. -/
def perform (archetypes : Archetypes) : ArchetypeAction → Archetypes
  | .install description =>
    match archetypes.book.installArchetypeClass ∅ description with
    | .installed result =>
      ⟨result.1, update archetypes.rules description.id (some description)⟩
    | _ => archetypes
  | .modify description =>
    match archetypes.book.modifyArchetypeClass ∅ description with
    | some result =>
      ⟨result.1, update archetypes.rules description.id (some description)⟩
    | none => archetypes

/-- What an archetype's rule defines. -/
def ownEntities (archetypes : Archetypes) (name : String) : Entities :=
  (archetypes.rules name).elim ∅ Description.ownEntities

def ownThoughts (archetypes : Archetypes) (name : String) : List Element :=
  (archetypes.rules name).elim [] Description.ownThoughts

theorem own_update_of_ne (archetypes : Archetypes) (changed : RuleBook) (rule : Description)
    {name : String} (different : name ≠ rule.id) :
    ownEntities ⟨changed, update archetypes.rules rule.id (some rule)⟩ name =
        archetypes.ownEntities name ∧
      ownThoughts ⟨changed, update archetypes.rules rule.id (some rule)⟩ name =
        archetypes.ownThoughts name := by
  unfold ownEntities ownThoughts
  simp only [update_of_ne different, and_self]

/-- Own entities of a line, over each other. -/
def mergedEntities (archetypes : Archetypes) (line : List String) : Entities :=
  line.foldl (fun merged name => overlay merged (archetypes.ownEntities name)) ∅

/-- The own thoughts along a line. -/
def joinedThoughts (archetypes : Archetypes) (line : List String) : List Element :=
  line.flatMap archetypes.ownThoughts

/-- All have what their lineage defines. -/
def Inherits (archetypes : Archetypes) : Prop :=
  ∀ name factory, archetypes.book.archetypeFactory name = some factory →
    (∃ line, Lineage archetypes.book.archetypeParent name line ∧
      factory.entities = archetypes.mergedEntities line ∧
      factory.thoughts = archetypes.joinedThoughts line) ∧
    (∀ id key value, (archetypes.ownEntities name).attribute id key = some value →
      Entities.attribute factory.entities id key = some value) ∧
    (factory.parent ≠ none → ∃ node, archetypes.book.atlasObjects[name]? = some node ∧
      node.PublishesContents factory)

/-- Only entities that add nothing are lost. -/
def Harmless (archetypes : Archetypes) : ArchetypeAction → Prop
  | .install _ => True
  | .modify description =>
    let rules := update archetypes.rules description.id (some description)
    ∀ line name, Lineage archetypes.book.archetypeParent description.id line →
      Descends archetypes.book.archetypeParent description.id name →
      overlay (mergedEntities ⟨archetypes.book, rules⟩ line) (archetypes.ownEntities name) =
        mergedEntities ⟨archetypes.book, rules⟩ line

/-- Whether or not entities are lost. -/
structure Sound (archetypes : Archetypes) : Prop where
  forest : ∃ rank, archetypes.book.ArchetypeForest rank
  typed : ∀ name kit, archetypes.book.entityFactories[name]? = some kit →
    archetypes.book.hasClass name = true
  noContents : archetypes.book.propertyFactories.NoContents
  own : ∀ name factory, archetypes.book.archetypeFactory name = some factory →
    factory.classEntities = archetypes.ownEntities name ∧
      factory.classThoughts = archetypes.ownThoughts name
  root : ∀ name factory, archetypes.book.archetypeFactory name = some factory →
    factory.parent = none → factory.entities = overlay ∅ factory.classEntities ∧
      factory.thoughts = factory.classThoughts
  published : ∀ name factory, archetypes.book.archetypeFactory name = some factory →
    factory.parent ≠ none → archetypes.book.Published name

namespace Sound

variable {archetypes : Archetypes} (sound : archetypes.Sound)

include sound

theorem rises : ∃ rank : String → Nat, ∀ name parent,
    archetypes.book.archetypeParent name = some parent → rank parent < rank name := by
  obtain ⟨rank, forest⟩ := sound.forest
  refine ⟨rank, fun name parent isParent => ?_⟩
  obtain ⟨factory, known, isParent⟩ := RuleBook.archetypeParent_eq_some.mp isParent
  exact forest.rank_lt known isParent

theorem merged_of_joined {name : String} {line : List String}
    (lineage : Lineage archetypes.book.archetypeParent name line)
    (joined : ∀ other ∈ line, archetypes.book.Joined ∅ other) {factory : ArchetypeFactory}
    (known : archetypes.book.archetypeFactory name = some factory) :
    factory.entities = archetypes.mergedEntities line ∧
      factory.thoughts = archetypes.joinedThoughts line := by
  induction lineage generalizing factory with
  | @root name isRoot =>
    rw [RuleBook.archetypeParent_of_known known] at isRoot
    obtain ⟨entities, thoughts⟩ := sound.root name factory known isRoot
    obtain ⟨ownEntities, ownThoughts⟩ := sound.own name factory known
    rw [entities, thoughts, ownEntities, ownThoughts]
    exact ⟨rfl, (append_nil _).symm⟩
  | @child name parent line isParent above ih =>
    rw [RuleBook.archetypeParent_of_known known] at isParent
    obtain ⟨rank, forest⟩ := sound.forest
    obtain ⟨parentFactory, parentKnown, -⟩ := forest.listed known isParent
    obtain ⟨aboveEntities, aboveThoughts⟩ :=
      ih (fun other isAbove => joined other (mem_append_left _ isAbove)) parentKnown
    obtain ⟨thoughts, -, entities⟩ := joined name (mem_append_right _ mem_cons_self)
      factory parent parentFactory known isParent parentKnown
    obtain ⟨ownEntities, ownThoughts⟩ := sound.own name factory known
    rw [entities (Set.notMem_empty _), thoughts, ownEntities, ownThoughts, aboveEntities,
      aboveThoughts]
    constructor
    · rw [mergedEntities, mergedEntities, foldl_append]
      rfl
    · rw [joinedThoughts, joinedThoughts, flatMap_append, flatMap_singleton]

theorem inherits_iff : archetypes.Inherits ↔ ∀ name, archetypes.book.Joined ∅ name := by
  constructor
  · intro inherits name factory parent parentFactory known isParent parentKnown
    obtain ⟨⟨line, lineage, entities, thoughts⟩, -⟩ := inherits name factory known
    obtain ⟨⟨above, aboveLineage, aboveEntities, aboveThoughts⟩, -⟩ :=
      inherits parent parentFactory parentKnown
    have isChild : archetypes.book.archetypeParent name = some parent :=
      RuleBook.archetypeParent_eq_some.mpr ⟨factory, known, isParent⟩
    obtain rfl := lineage.unique (.child isChild aboveLineage)
    obtain ⟨ownEntities, ownThoughts⟩ := sound.own name factory known
    rw [entities, thoughts, ownEntities, ownThoughts, aboveEntities, aboveThoughts]
    refine ⟨?_, fun isLost => isLost.elim, fun _ => ?_⟩
    · rw [joinedThoughts, joinedThoughts, flatMap_append, flatMap_singleton]
    · rw [mergedEntities, mergedEntities, foldl_append]
      rfl
  · intro joined name factory known
    obtain ⟨rank, rises⟩ := sound.rises
    obtain ⟨line, lineage⟩ := Lineage.exists_of_rank rises name
    have merged := sound.merged_of_joined lineage (fun other _ => joined other) known
    refine ⟨⟨line, lineage, merged⟩, ?_, fun installed =>
      sound.published name factory known installed factory known⟩
    intro id key value isOwn
    rw [← (sound.own name factory known).1] at isOwn
    cases isParent : factory.parent with
    | none =>
      rw [(sound.root name factory known isParent).1, attribute_overlay, isOwn]
      rfl
    | some parent =>
      obtain ⟨rank, forest⟩ := sound.forest
      obtain ⟨parentFactory, parentKnown, -⟩ := forest.listed known isParent
      obtain ⟨-, -, entities⟩ := joined name factory parent parentFactory known isParent parentKnown
      rw [entities (Set.notMem_empty _), attribute_overlay, isOwn]
      rfl

end Sound

/-! ## Installations and modifications -/

section Install

variable {archetypes : Archetypes} {rule : Description} {parentFactory : ArchetypeFactory}
  {changed : RuleBook} (sound : archetypes.Sound)
  (graft : RuleBook.Grafted archetypes.book changed rule parentFactory)

include sound graft

theorem Sound.grafted : Sound ⟨changed, update archetypes.rules rule.id (some rule)⟩ where
  forest := by
    obtain ⟨rank, forest⟩ := sound.forest
    exact ⟨_, graft.forest forest sound.noContents⟩
  typed := graft.typed
  noContents := by
    rw [graft.manager]
    exact sound.noContents
  own := by
    intro name factory known
    by_cases isNew : name = rule.id
    · subst isNew
      have isFactory := graft.newKnown
      rw [known] at isFactory
      obtain rfl := Option.some.inj isFactory
      simp [RuleBook.newArchetype, ownEntities, ownThoughts]
    · obtain ⟨before, isBefore, same, -⟩ := graft.of_old isNew known
      obtain ⟨entities, thoughts⟩ := own_update_of_ne archetypes changed rule isNew
      rw [same, entities, thoughts]
      exact sound.own name before isBefore
  root := by
    intro name factory known isRoot
    by_cases isNew : name = rule.id
    · subst isNew
      have isFactory := graft.newKnown
      rw [known] at isFactory
      obtain rfl := Option.some.inj isFactory
      cases isRoot
    · obtain ⟨before, isBefore, same, -⟩ := graft.of_old isNew known
      rw [same] at isRoot ⊢
      exact sound.root name before isBefore isRoot
  published := by
    intro name factory known installed
    by_cases isNew : name = rule.id
    · subst isNew
      exact graft.published_new sound.noContents
    · obtain ⟨before, isBefore, same, -⟩ := graft.of_old isNew known
      rw [same] at installed
      exact graft.published_old isNew (sound.published name before isBefore installed)

theorem Inherits.grafted (inherits : archetypes.Inherits) :
    Inherits ⟨changed, update archetypes.rules rule.id (some rule)⟩ :=
  (sound.grafted graft).inherits_iff.mpr
    (graft.joined sound.forest (sound.inherits_iff.mp inherits))

end Install

/-- Archetype before anything hears of it. -/
def modifiedArchetype (book : RuleBook) (factory : ArchetypeFactory) (rule : Description) :
    ArchetypeFactory :=
  { factory with
    entities := overlay (book.inheritedContents factory).1 rule.ownEntities
    thoughts := (book.inheritedContents factory).2 ++ rule.ownThoughts
    classEntities := rule.ownEntities
    classThoughts := rule.ownThoughts }

theorem modifyArchetypeClass_eq {book : RuleBook} {rule : Description}
    {factory : ArchetypeFactory} (known : book.archetypeFactory rule.id = some factory)
    (changes : Changes) :
    book.modifyArchetypeClass changes rule =
      some (RuleBook.updateArchetype
        (book.setArchetypeFactory rule.id (modifiedArchetype book factory rule)).depthBound
        (book.setArchetypeFactory rule.id (modifiedArchetype book factory rule), changes)
        rule.id) := by
  unfold RuleBook.modifyArchetypeClass
  simp only [known]
  rw [ArchetypeFactory.populate_eq _ _ rfl rfl]
  rfl

section Modify

variable {archetypes : Archetypes} {rule : Description} {factory : ArchetypeFactory}
  (sound : archetypes.Sound) (inherits : archetypes.Inherits)
  (known : archetypes.book.archetypeFactory rule.id = some factory)

/-- Book with the modified archetype in it. -/
def entered (archetypes : Archetypes) (rule : Description) (factory : ArchetypeFactory) :
    RuleBook :=
  archetypes.book.setArchetypeFactory rule.id (modifiedArchetype archetypes.book factory rule)

include known in
theorem entered_places (name : String) :
    ((archetypes.entered rule factory).archetypeFactory name).map ArchetypeFactory.place =
      (archetypes.book.archetypeFactory name).map ArchetypeFactory.place := by
  rw [entered, RuleBook.archetypeFactory_setArchetypeFactory]
  split_ifs with isName
  · rw [← isName, known]
    rfl
  · rfl

include known in
theorem entered_forest {rank : String → Nat} (forest : archetypes.book.ArchetypeForest rank) :
    (archetypes.entered rule factory).ArchetypeForest rank := by
  apply forest.of_places (entered_places known) (RuleBook.depthBound_setArchetypeFactory known _)
  intro name found isFound
  obtain ⟨before, isBefore, -⟩ := RuleBook.exists_of_places (entered_places known) isFound
  exact forest.typed isBefore

include sound inherits known in
theorem entered_joined {lost : Set String} (notLost : rule.id ∉ lost) {name : String}
    (nameNotLost : name ∉ lost)
    (notBelow : ¬ Descends archetypes.book.archetypeParent rule.id name) :
    (archetypes.entered rule factory).Joined lost name := by
  obtain ⟨rank, forest⟩ := sound.forest
  intro found parent parentFactory isFound isParent parentKnown
  rw [entered, RuleBook.archetypeFactory_setArchetypeFactory] at isFound parentKnown
  by_cases isSelf : rule.id = name
  · subst isSelf
    rw [if_pos rfl] at isFound
    obtain rfl := Option.some.inj isFound
    have lower := forest.rank_lt known isParent
    have different : rule.id ≠ parent := by
      rintro isSame
      rw [← isSame] at lower
      exact lt_irrefl _ lower
    rw [if_neg different] at parentKnown
    have inherited : archetypes.book.inheritedContents factory =
        (parentFactory.entities, parentFactory.thoughts) := by
      rw [RuleBook.inheritedContents, show factory.parent = some parent from isParent,
        bind_some, parentKnown]
    unfold modifiedArchetype
    rw [inherited]
    exact ⟨rfl, fun isLost => absurd isLost notLost, fun _ => rfl⟩
  · rw [if_neg isSelf] at isFound
    have different : rule.id ≠ parent := by
      rintro rfl
      exact notBelow (.child (RuleBook.archetypeParent_eq_some.mpr ⟨found, isFound, isParent⟩))
    rw [if_neg different] at parentKnown
    obtain ⟨thoughts, -, entities⟩ := sound.inherits_iff.mp inherits name found parent parentFactory
      isFound isParent parentKnown
    exact ⟨thoughts, fun isLost => absurd isLost nameNotLost, fun _ =>
      entities (Set.notMem_empty _)⟩

include sound inherits known in
theorem modify_settled : ∃ rank, archetypes.book.ArchetypeForest rank ∧
    RuleBook.Settled rank {name | Descends archetypes.book.archetypeParent rule.id name}
      {name | archetypes.book.archetypeParent name = none} (archetypes.entered rule factory)
      (RuleBook.updateArchetype (archetypes.entered rule factory).depthBound
        (archetypes.entered rule factory, ∅) rule.id).1 rule.id := by
  obtain ⟨rank, forest⟩ := sound.forest
  have parents := RuleBook.archetypeParent_of_places (entered_places known)
  have isEntered : (archetypes.entered rule factory).archetypeFactory rule.id =
      some (modifiedArchetype archetypes.book factory rule) := by
    rw [entered, RuleBook.archetypeFactory_setArchetypeFactory, if_pos rfl]
  have notLost : ¬ Descends archetypes.book.archetypeParent rule.id rule.id := by
    intro below
    obtain ⟨order, rises⟩ := sound.rises
    exact lt_irrefl _ (below.rank_lt rises)
  refine ⟨rank, forest, ?_⟩
  apply RuleBook.updateArchetype_settled ∅ (entered_forest known forest) sound.noContents
    isEntered (Nat.le_add_right _ _)
  · intro other below
    rw [parents] at below
    exact below
  · intro other _ notBelow
    rw [parents] at notBelow
    exact entered_joined sound inherits known notLost notBelow notBelow
  · intro other isInstalled different notBelow found isFound
    rw [entered, RuleBook.archetypeFactory_setArchetypeFactory, if_neg
      (Ne.symm different)] at isFound
    apply sound.published other found isFound ?_ found isFound
    intro isRoot
    exact isInstalled ((RuleBook.archetypeParent_of_known isFound).trans isRoot)

end Modify

section Modified

variable {archetypes : Archetypes} {rule : Description} {factory : ArchetypeFactory}
  {changed : RuleBook} {rank : String → Nat} (sound : archetypes.Sound)
  (known : archetypes.book.archetypeFactory rule.id = some factory)
  (settled : RuleBook.Settled rank {name | Descends archetypes.book.archetypeParent rule.id name}
    {name | archetypes.book.archetypeParent name = none} (archetypes.entered rule factory) changed
    rule.id)

include known settled

theorem changed_parents : changed.archetypeParent = archetypes.book.archetypeParent :=
  (RuleBook.archetypeParent_of_places settled.frame.places).trans
    (RuleBook.archetypeParent_of_places (entered_places known))

omit known in
theorem changed_known : changed.archetypeFactory rule.id =
    some (modifiedArchetype archetypes.book factory rule) := by
  rw [settled.kept rule.id le_rfl, entered, RuleBook.archetypeFactory_setArchetypeFactory,
    if_pos rfl]

include sound

theorem Sound.modified : Sound ⟨changed, update archetypes.rules rule.id (some rule)⟩ where
  forest := ⟨rank, settled.forest⟩
  typed := by
    intro name kit isKit
    have kits := settled.frame.kits name
    rw [isKit, isSome_some, eq_comm, isSome_iff_exists] at kits
    obtain ⟨before, isBefore⟩ := kits
    rw [settled.frame.types]
    change (archetypes.book.entityFactories.insert rule.id _)[name]? = some before at isBefore
    rw [ExtTreeMap.getElem?_insert] at isBefore
    split_ifs at isBefore with isSelf
    · rw [Std.LawfulEqCmp.compare_eq_iff_eq] at isSelf
      subst isSelf
      exact sound.typed _ _ (RuleBook.isSome_kit_of_archetypeFactory known)
    · exact sound.typed name before isBefore
  noContents := by
    rw [settled.frame.manager]
    exact sound.noContents
  own := by
    intro name found isFound
    obtain ⟨before, isBefore, same⟩ := settled.frame.archetypeFactory isFound
    simp only [ArchetypeFactory.frame, Prod.mk.injEq] at same
    rw [← same.2.1, ← same.2.2]
    rw [entered, RuleBook.archetypeFactory_setArchetypeFactory] at isBefore
    split_ifs at isBefore with isSelf
    · subst isSelf
      obtain rfl := Option.some.inj isBefore
      simp [modifiedArchetype, ownEntities, ownThoughts]
    · obtain ⟨entities, thoughts⟩ := own_update_of_ne archetypes changed rule (Ne.symm isSelf)
      rw [entities, thoughts]
      exact sound.own name before isBefore
  root := by
    intro name found isFound isRoot
    have noParent : archetypes.book.archetypeParent name = none := by
      rw [← changed_parents known settled, RuleBook.archetypeParent_of_known isFound, isRoot]
    have notLost : ¬ Descends archetypes.book.archetypeParent rule.id name := by
      intro below
      cases below with
      | child isParent => simp [noParent] at isParent
      | further isParent => simp [noParent] at isParent
    rw [settled.outside name notLost, entered, RuleBook.archetypeFactory_setArchetypeFactory]
      at isFound
    split_ifs at isFound with isSelf
    · obtain rfl := Option.some.inj isFound
      have nothing : archetypes.book.inheritedContents factory = (∅, []) := by
        rw [RuleBook.inheritedContents, show factory.parent = none from isRoot, bind_none]
      unfold modifiedArchetype
      rw [nothing]
      exact ⟨rfl, rfl⟩
    · exact sound.root name found isFound isRoot
  published := by
    intro name found isFound installed
    apply settled.published
    intro noParent
    change archetypes.book.archetypeParent name = none at noParent
    rw [← changed_parents known settled, RuleBook.archetypeParent_of_known isFound] at noParent
    exact installed noParent

theorem merged_modified {line : List String}
    (lineage : Lineage archetypes.book.archetypeParent rule.id line) :
    (modifiedArchetype archetypes.book factory rule).entities =
      mergedEntities ⟨changed, update archetypes.rules rule.id (some rule)⟩ line := by
  have after := sound.modified known settled
  have parents := changed_parents known settled
  have sameLineage : Lineage changed.archetypeParent rule.id line := by
    rw [parents]
    exact lineage
  refine (after.merged_of_joined sameLineage ?_ (changed_known settled)).1
  intro other isAbove found parent parentFactory isFound isParent parentKnown
  obtain ⟨order, rises⟩ := sound.rises
  have notLost : ¬ Descends archetypes.book.archetypeParent rule.id other := by
    intro below
    have upper := lineage.rank_le rises isAbove
    have lower := below.rank_lt rises
    omega
  have notRoot : ¬ archetypes.book.archetypeParent other = none := by
    rw [← parents, RuleBook.archetypeParent_of_known isFound, isParent]
    exact some_ne_none parent
  obtain ⟨thoughts, -, entities⟩ :=
    settled.joined other notRoot found parent parentFactory isFound isParent parentKnown
  exact ⟨thoughts, fun isLost => isLost.elim, fun _ => entities notLost⟩

omit sound in
theorem entities_of_lost {name : String}
    (below : Descends archetypes.book.archetypeParent rule.id name) {found : ArchetypeFactory}
    (isFound : changed.archetypeFactory name = some found) :
    found.entities = (modifiedArchetype archetypes.book factory rule).entities := by
  have parents := changed_parents known settled
  induction below generalizing found with
  | @child name isParent =>
    have notRoot : ¬ archetypes.book.archetypeParent name = none := by simp [isParent]
    rw [← parents, RuleBook.archetypeParent_of_known isFound] at isParent
    exact (settled.joined name notRoot found rule.id _ isFound isParent
      (changed_known settled)).2.1 (.child (by
        rw [← parents, RuleBook.archetypeParent_of_known isFound, isParent]))
  | @further name parent isParent above ih =>
    have isLost : Descends archetypes.book.archetypeParent rule.id name := .further isParent above
    have notRoot : ¬ archetypes.book.archetypeParent name = none := by simp [isParent]
    rw [← parents, RuleBook.archetypeParent_of_known isFound] at isParent
    obtain ⟨parentFactory, parentKnown, -⟩ := settled.forest.listed isFound isParent
    rw [(settled.joined name notRoot found parent parentFactory isFound isParent parentKnown).2.1
      isLost]
    exact ih parentKnown

/-- Inherited just if nothing is lost. -/
theorem inherits_modified_iff :
    Inherits ⟨changed, update archetypes.rules rule.id (some rule)⟩ ↔
      archetypes.Harmless (.modify rule) := by
  have after := sound.modified known settled
  have parents := changed_parents known settled
  obtain ⟨order, rises⟩ := sound.rises
  have own (name : String) (below : Descends archetypes.book.archetypeParent rule.id name) :
      ownEntities ⟨changed, update archetypes.rules rule.id (some rule)⟩ name =
        archetypes.ownEntities name := by
    have different : name ≠ rule.id := by
      rintro rfl
      exact lt_irrefl _ (below.rank_lt rises)
    exact (own_update_of_ne archetypes changed rule different).1
  rw [after.inherits_iff]
  constructor
  · intro joined line name lineage below
    have merged := merged_modified sound known settled lineage
    change _ = mergedEntities ⟨archetypes.book, _⟩ line at merged
    rw [← merged]
    obtain ⟨parent, isParent, aboveEntities⟩ : ∃ parent,
        changed.archetypeParent name = some parent ∧ ∀ parentFactory,
          changed.archetypeFactory parent = some parentFactory → parentFactory.entities =
            (modifiedArchetype archetypes.book factory rule).entities := by
      rw [parents]
      cases below with
      | child isParent =>
        refine ⟨_, isParent, fun parentFactory parentKnown => ?_⟩
        rw [changed_known settled] at parentKnown
        rw [Option.some.inj parentKnown]
      | further isParent above =>
        exact ⟨_, isParent, fun _ parentKnown => entities_of_lost known settled above parentKnown⟩
    obtain ⟨found, isFound, isParent⟩ := RuleBook.archetypeParent_eq_some.mp isParent
    obtain ⟨parentFactory, parentKnown, -⟩ := settled.forest.listed isFound isParent
    obtain ⟨-, -, entities⟩ := joined name found parent parentFactory isFound isParent parentKnown
    have whole := entities (Set.notMem_empty _)
    rw [entities_of_lost known settled below isFound, aboveEntities parentFactory parentKnown,
      (after.own name found isFound).1, own name below] at whole
    exact whole.symm
  · intro harmless name found parent parentFactory isFound isParent parentKnown
    have notRoot : ¬ archetypes.book.archetypeParent name = none := by
      rw [← parents, RuleBook.archetypeParent_of_known isFound, isParent]
      exact some_ne_none parent
    obtain ⟨thoughts, lost, kept⟩ :=
      settled.joined name notRoot found parent parentFactory isFound isParent parentKnown
    refine ⟨thoughts, fun isLost => isLost.elim, fun _ => ?_⟩
    by_cases below : Descends archetypes.book.archetypeParent rule.id name
    · obtain ⟨line, lineage⟩ := Lineage.exists_of_rank rises rule.id
      have merged := merged_modified sound known settled lineage
      change _ = mergedEntities ⟨archetypes.book, _⟩ line at merged
      have nothing := harmless line name lineage below
      rw [← merged] at nothing
      rw [← lost below, (after.own name found isFound).1, own name below,
        entities_of_lost known settled below isFound]
      exact nothing.symm
    · exact kept below

end Modified

theorem modifyArchetypeClass_of_unknown {book : RuleBook} {rule : Description}
    (unknown : book.archetypeFactory rule.id = none) (changes : Changes) :
    book.modifyArchetypeClass changes rule = none := by
  unfold RuleBook.modifyArchetypeClass
  rw [unknown]

theorem perform_spec {archetypes : Archetypes} (sound : archetypes.Sound)
    (inherits : archetypes.Inherits) (action : ArchetypeAction) :
    (archetypes.perform action).Sound ∧
      ((archetypes.perform action).Inherits ↔ archetypes.Harmless action) := by
  cases action with
  | install rule =>
    cases installed : archetypes.book.installArchetypeClass ∅ rule with
    | installed result =>
      obtain ⟨parentFactory, grafted⟩ :=
        RuleBook.installArchetypeClass_grafted sound.typed installed
      simp only [perform, installed]
      exact ⟨sound.grafted grafted, iff_of_true (inherits.grafted sound grafted) trivial⟩
    | failed =>
      simp only [perform, installed]
      exact ⟨sound, iff_of_true inherits trivial⟩
    | waits dependent reason =>
      simp only [perform, installed]
      exact ⟨sound, iff_of_true inherits trivial⟩
  | modify rule =>
    cases known : archetypes.book.archetypeFactory rule.id with
    | none =>
      simp only [perform, modifyArchetypeClass_of_unknown known]
      refine ⟨sound, iff_of_true inherits ?_⟩
      intro line name _ below
      -- Nothing is below what is no archetype.
      obtain ⟨child, isChild, -⟩ := below.through_child
      obtain ⟨factory, childKnown, isParent⟩ := RuleBook.archetypeParent_eq_some.mp isChild
      obtain ⟨rank, forest⟩ := sound.forest
      obtain ⟨parentFactory, parentKnown, -⟩ := forest.listed childKnown isParent
      rw [known] at parentKnown
      contradiction
    | some factory =>
      simp only [perform, modifyArchetypeClass_eq known]
      obtain ⟨rank, -, settled⟩ := modify_settled sound inherits known
      exact ⟨sound.modified known settled, inherits_modified_iff sound known settled⟩

/-- Only the built-in archetype. -/
structure Founded (book : RuleBook) : Prop where
  typed : ∀ name kit, book.entityFactories[name]? = some kit → book.hasClass name = true
  noContents : book.propertyFactories.NoContents
  archetypes : ∀ name, book.archetypeFactory name =
    if name = "archetype" then some ⟨∅, [], ∅, [], none, []⟩ else none
  noDefaults : ∀ node, book.atlasObjects["archetype"]? = some node → node.PlainContents

/-- No rule has been given yet. -/
def start (book : RuleBook) : Archetypes :=
  ⟨book, fun _ => none⟩

section

variable {book : RuleBook} (founded : Founded book)

include founded

theorem Founded.known {name : String} {factory : ArchetypeFactory}
    (known : book.archetypeFactory name = some factory) :
    name = "archetype" ∧ factory = ⟨∅, [], ∅, [], none, []⟩ := by
  rw [founded.archetypes] at known
  split_ifs at known with isBase
  exact ⟨isBase, (Option.some.inj known).symm⟩

theorem Founded.sound : (start book).Sound where
  forest := by
    refine ⟨fun _ => 0, ?_, ?_, ?_, ?_, ?_⟩
    · intro name factory parent known isParent
      obtain ⟨-, rfl⟩ := founded.known known
      cases isParent
    · intro name factory child known isChild
      obtain ⟨-, rfl⟩ := founded.known known
      cases isChild
    · intro name factory parent known isParent
      obtain ⟨-, rfl⟩ := founded.known known
      cases isParent
    · intro name factory known
      unfold RuleBook.depthBound
      rw [Nat.pos_iff_ne_zero]
      intro isEmpty
      rw [← eq_empty_iff_size_eq_zero] at isEmpty
      have isKit := RuleBook.isSome_kit_of_archetypeFactory known
      simp [isEmpty] at isKit
    · intro name factory known
      have isKit := RuleBook.isSome_kit_of_archetypeFactory known
      obtain ⟨node, isNode⟩ := RuleBook.getElem?_of_hasClass (founded.typed _ _ isKit)
      obtain ⟨rfl, -⟩ := founded.known known
      exact ⟨node, isNode, founded.noDefaults node isNode⟩
  typed := founded.typed
  noContents := founded.noContents
  own := by
    intro name factory known
    obtain ⟨-, rfl⟩ := founded.known known
    exact ⟨rfl, rfl⟩
  root := by
    intro name factory known _
    obtain ⟨-, rfl⟩ := founded.known known
    exact ⟨(overlay_empty ∅).symm, rfl⟩
  published := by
    intro name factory known installed
    obtain ⟨-, rfl⟩ := founded.known known
    exact absurd rfl installed

theorem Founded.inherits : (start book).Inherits := by
  rw [founded.sound.inherits_iff]
  intro name factory parent parentFactory known isParent
  obtain ⟨-, rfl⟩ := founded.known known
  cases isParent

end

/-- After every run of harmless changes, and only then, archetypes inherit what is defined above
them. -/
theorem run_inherits_iff {book : RuleBook} (founded : Founded book)
    (actions : List ArchetypeAction) :
    (∀ count, (run perform (start book) (actions.take count)).Inherits) ↔
      Admissible perform Harmless (start book) actions :=
  run_take_iff_of_good Inherits Sound
    (fun _ action sound inherits => (perform_spec sound inherits action).1)
    (fun _ action sound inherits => (perform_spec sound inherits action).2)
    founded.sound founded.inherits actions

theorem Sound.harmless_of_childless {archetypes : Archetypes} (sound : archetypes.Sound)
    {rule : Description} {factory : ArchetypeFactory}
    (known : archetypes.book.archetypeFactory rule.id = some factory)
    (childless : factory.children = []) : archetypes.Harmless (.modify rule) := by
  intro line name _ below
  obtain ⟨child, isChild, -⟩ := below.through_child
  obtain ⟨childFactory, childKnown, isParent⟩ := RuleBook.archetypeParent_eq_some.mp isChild
  obtain ⟨rank, forest⟩ := sound.forest
  obtain ⟨parentFactory, parentKnown, listed⟩ := forest.listed childKnown isParent
  rw [known] at parentKnown
  obtain rfl := Option.some.inj parentKnown
  rw [childless] at listed
  cases listed

theorem builtinBook_founded : Founded RuleBook.builtinBook where
  typed := RuleBook.builtinBook_unruled.typed
  noContents := by
    constructor
    · rfl
    · rfl
  archetypes name := by
    unfold RuleBook.archetypeFactory RuleBook.builtinBook
    by_cases isBase : "archetype" = name
    · subst isBase
      rfl
    · simp [isBase, Ne.symm isBase]
  noDefaults node isNode name property _ held := by
    unfold RuleBook.builtinBook at isNode
    rw [getElem?_insert_self] at isNode
    obtain rfl := Option.some.inj isNode
    change (∅ : ExtTreeMap String Property compare)[name]? = some property at held
    simp at held

/-- An archetype with one attribute of `main`. -/
def archetypeRule (id parent attributeName : String) (value : Element) : Description :=
  { RuleBook.plainDescription id parent .archetype with
    entities := some [.map [("id", .string "main"), (attributeName, value)]] }

/-- A hut in a village is built anew. -/
def rebuiltHut : List ArchetypeAction :=
  [.install (archetypeRule "village" "archetype" "walls" (.int 1)),
    .install (archetypeRule "hut" "village" "roof" (.int 2)),
    .modify (archetypeRule "hut" "village" "roof" (.int 3))]

theorem run_inherits_rebuiltHut :
    (run perform (start RuleBook.builtinBook) (rebuiltHut.take 3)).Inherits := by
  have sound : (run perform (start RuleBook.builtinBook) (rebuiltHut.take 2)).Sound := by
    have first := perform_spec builtinBook_founded.sound builtinBook_founded.inherits
      (.install (archetypeRule "village" "archetype" "walls" (.int 1)))
    exact (perform_spec first.1 (first.2.mpr trivial)
      (.install (archetypeRule "hut" "village" "roof" (.int 2)))).1
  have childless : ((run perform (start RuleBook.builtinBook)
      (rebuiltHut.take 2)).book.archetypeFactory "hut").map (fun hut => hut.children) =
        some [] := by
    decide +kernel
  obtain ⟨hut, known, noChildren⟩ := Option.map_eq_some_iff.mp childless
  exact (run_inherits_iff builtinBook_founded rebuiltHut).mpr
    ⟨trivial, trivial, sound.harmless_of_childless known noChildren, trivial⟩ 3

/-- The village changes; the roof is lost. -/
theorem run_not_inherits : Founded RuleBook.builtinBook ∧
    ¬ (run perform (start RuleBook.builtinBook)
      [.install (archetypeRule "village" "archetype" "walls" (.int 1)),
        .install (archetypeRule "hut" "village" "roof" (.int 2)),
        .modify (archetypeRule "village" "archetype" "walls" (.int 3))]).Inherits := by
  refine ⟨builtinBook_founded, fun inherits => ?_⟩
  have isLost : ((run perform (start RuleBook.builtinBook)
      [.install (archetypeRule "village" "archetype" "walls" (.int 1)),
        .install (archetypeRule "hut" "village" "roof" (.int 2)),
        .modify (archetypeRule "village" "archetype" "walls" (.int 3))]).book.archetypeFactory
          "hut").map (fun hut => (Entities.attribute hut.entities "main" "roof").isNone) =
            some true := by
    decide +kernel
  have isOwn : (((run perform (start RuleBook.builtinBook)
      [.install (archetypeRule "village" "archetype" "walls" (.int 1)),
        .install (archetypeRule "hut" "village" "roof" (.int 2)),
        .modify (archetypeRule "village" "archetype" "walls" (.int 3))]).ownEntities
          "hut").attribute "main" "roof").isSome = true := by
    decide +kernel
  obtain ⟨hut, known, noRoof⟩ := Option.map_eq_some_iff.mp isLost
  obtain ⟨value, isRoof⟩ := Option.isSome_iff_exists.mp isOwn
  have kept := (inherits "hut" hut known).2.1 "main" "roof" value isRoof
  rw [kept] at noRoof
  exact Bool.false_ne_true noRoof

end Archetypes

end Cyphesis.Ruleset
