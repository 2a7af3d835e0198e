import Cyphesis.Foundation.Run
import Cyphesis.Ruleset.NewClass
import Cyphesis.Ruleset.Visits
import Cyphesis.Ruleset.Waiting

/-!
# Batches of rules

The work on rules is a sequence of small steps: a rule is installed, modified, made to wait, or
taken off the waiting list.
-/

namespace Cyphesis.Ruleset

open Std (ExtTreeMap)
open Cyphesis.Atlas Option Std.ExtTreeMap
open Cyphesis.Foundation

/-- What is handed down. -/
def ArchetypeFactory.contents (factory : ArchetypeFactory) :
    ExtTreeMap String MapType compare × List Element :=
  (factory.entities, factory.thoughts)

namespace RuleBook

inductive BatchAction where
  | install (rule : Description)
  | modify (rule : Description)
  | wait (rule : Description) (dependent reason : String)
  | release (name : String)

variable (state : RuleBook × Changes)

/-- A small step of a batch: what cannot be installed or modified changes nothing. -/
def batchStep : BatchAction → RuleBook × Changes
  | .install rule =>
    match state.1.installRuleInner state.2 rule with
    | .installed result => result
    | _ => state
  | .modify rule => (state.1.modifyRuleInner state.2 rule).getD state
  | .wait rule dependent reason => (state.1.waitForRule rule dependent reason, state.2)
  | .release name => (state.1.eraseWaiting name, state.2)

/-- Small steps of `installItem`. -/
def installTrace : Nat → RuleBook × Changes → Description → List BatchAction
  | 0, _, _ => []
  | depth + 1, state, rule =>
    match state.1.installRuleInner state.2 rule with
    | .failed => []
    | .waits dependent reason => [.wait rule dependent reason]
    | .installed (book, changes) =>
      .install rule :: .release rule.id ::
        smallSteps (installItem depth) (installTrace depth)
          (book.eraseWaiting rule.id, changes) (book.readyList rule.id)

theorem run_installTrace (depth : Nat) (state : RuleBook × Changes) (rule : Description) :
    run batchStep state (installTrace depth state rule) = installItem depth state rule := by
  induction depth generalizing state rule with
  | zero => rfl
  | succ depth ih =>
    rw [installItem_succ, installTrace]
    cases outcome : state.1.installRuleInner state.2 rule with
    | failed => rfl
    | waits dependent reason => rfl
    | installed installed =>
      simp only [run_cons, batchStep, outcome]
      exact run_smallSteps ih _ _

/-- Small steps of one rule of `processChangedRules`. -/
def processTrace (rule : Description) : List BatchAction :=
  if state.1.hasClass rule.id then [.modify rule]
  else installTrace state.1.installDepth state rule

theorem run_processTrace (rule : Description) :
    run batchStep state (processTrace state rule) = processRule state rule := by
  unfold processTrace processRule
  split
  · rfl
  · exact run_installTrace _ state rule

/-- The ways rules arrive together. -/
inductive Batch where
  | installRule (rule : Description)
  | modifyRule (rule : Description)
  | processChangedRules (rules : RootDict)
  | loadRules (rules : RootDict)

/-- The new state, and the changes. -/
def Batch.outcome (book : RuleBook) : Batch → Outcome
  | .installRule rule => book.installRule rule
  | .modifyRule rule => book.modifyRule rule
  | .processChangedRules rules => book.processChangedRules rules
  | .loadRules rules => book.loadRules rules

/-- Small steps of a batch. A rule of `installRule` that fails or has to wait changes nothing. -/
def Batch.trace (book : RuleBook) : Batch → List BatchAction
  | .installRule rule =>
    match book.installRuleInner ∅ rule with
    | .installed _ => [.install rule]
    | _ => []
  | .modifyRule rule => [.modify rule]
  | .processChangedRules rules =>
    smallSteps processRule processTrace (book, ∅) (rules.toList.map Prod.snd)
  | .loadRules rules =>
    smallSteps install (fun state rule => installTrace state.1.installDepth state rule) (book, ∅)
      (rules.toList.map Prod.snd)

theorem publish_empty (book : RuleBook) : book.publish ∅ = book := by
  rw [publish, foldl_eq_foldl_toList]
  rfl

/-- Does the batch end with setting the descriptions anew? -/
def Batch.publishes : Batch → Bool
  | .loadRules _ => false
  | _ => true

theorem Batch.outcome_eq (book : RuleBook) (batch : Batch) :
    batch.outcome book =
      (if batch.publishes then
          (run batchStep (book, ∅) (batch.trace book)).1.publish
            (run batchStep (book, ∅) (batch.trace book)).2
        else (run batchStep (book, ∅) (batch.trace book)).1,
        (run batchStep (book, ∅) (batch.trace book)).2) := by
  cases batch with
  | installRule rule =>
    simp only [outcome, trace, RuleBook.installRule, publishes, if_true]
    cases installed : book.installRuleInner ∅ rule with
    | failed =>
      simp only [run_nil]
      rw [publish_empty]
    | waits dependent reason =>
      simp only [run_nil]
      rw [publish_empty]
    | installed result => simp only [run_cons, run_nil, batchStep, installed]
  | modifyRule rule =>
    simp only [outcome, trace, RuleBook.modifyRule, run_cons, run_nil, batchStep, publishes,
      if_true]
    cases book.modifyRuleInner ∅ rule with
    | none => rw [getD_none, publish_empty]
    | some modified => rfl
  | processChangedRules rules =>
    have whole : run batchStep (book, ∅) (trace book (.processChangedRules rules)) =
        rules.foldl (fun result _ rule => processRule result rule) (book, ∅) := by
      rw [foldl_eq_foldl_toList]
      rw [trace, run_smallSteps run_processTrace, run, List.foldl_map]
    rw [whole]
    rfl
  | loadRules rules =>
    have whole : run batchStep (book, ∅) (trace book (.loadRules rules)) =
        rules.foldl (fun result _ rule => install result rule) (book, ∅) := by
      rw [foldl_eq_foldl_toList]
      have refines : ∀ (state : RuleBook × Changes) (rule : Description),
          run batchStep state (installTrace state.1.installDepth state rule) =
            install state rule :=
        fun state rule => run_installTrace _ state rule
      rw [trace, run_smallSteps refines, run, List.foldl_map]
    rw [whole]
    rfl

theorem Planted.of_factories {book changed : RuleBook} (planted : book.Planted)
    (factories : ∀ name, changed.entityFactory name = book.entityFactory name)
    (bound : book.depthBound ≤ changed.depthBound)
    (types : ∀ name, book.hasClass name = true → changed.hasClass name = true)
    (typed : ∀ name kit, changed.entityFactories[name]? = some kit →
      changed.hasClass name = true) : changed.Planted where
  forest := by
    obtain ⟨rank, forest⟩ := planted.forest
    refine ⟨rank, ?_, ?_, ?_, ?_, ?_, ?_⟩
    · intro name factory parent known isParent
      rw [factories] at known
      obtain ⟨parentFactory, isFactory, listed⟩ := forest.listed known isParent
      exact ⟨parentFactory, (factories parent).trans isFactory, listed⟩
    · intro name factory child known isChild
      rw [factories] at known
      obtain ⟨childFactory, isFactory, isParent⟩ := forest.child known isChild
      exact ⟨childFactory, (factories child).trans isFactory, isParent⟩
    · intro name factory parent known isParent
      rw [factories] at known
      exact forest.rank_lt known isParent
    · intro name factory known
      rw [factories] at known
      exact (forest.rank_bound known).trans_le bound
    · intro name factory known
      rw [factories] at known
      exact forest.nodup known
    · intro name factory known
      rw [factories] at known
      obtain ⟨node, isNode⟩ := forest.typed known
      exact getElem?_of_hasClass (types name (hasClass_of_getElem? isNode))
  typed := typed
  gameEntity := types _ planted.gameEntity
  noFactory := (factories _).trans planted.noFactory

variable {rule : Description} {changes : Changes} {book : RuleBook}

theorem Planted.entered {book changed : RuleBook} (planted : book.Planted)
    (entered : Entered book changed rule) : changed.Planted := by
  apply planted.of_factories
  · intro name
    rw [entityFactory, entered.factories, ← entityFactory]
  · have same : changed.depthBound = book.depthBound := by
      rw [depthBound, entered.factories, depthBound]
    exact same.ge
  · intro name known
    exact (entered.hasClass_iff name).mpr (Or.inr known)
  · intro name kit known
    rw [entered.factories] at known
    exact (entered.hasClass_iff name).mpr (Or.inr (planted.typed name kit known))

/-- The class is entered, and its parent updated. -/
inductive ClassInstalled (book : RuleBook) (changes : Changes) (rule : Description) :
    RuleBook × Changes → Prop
  | root {factory : EntityFactory} {entered : RuleBook} :
      book.newEntityFactory rule.id rule.parent = .inl factory →
      NewClass book entered rule (.entity (factory.populate rule))
        (factory.populate rule).attributes →
      (factory.populate rule).children = [] → (factory.populate rule).parent = none →
      ClassInstalled book changes rule (entered, changes)
  | child {factory parentFactory : EntityFactory} {entered : RuleBook} :
      book.newEntityFactory rule.id rule.parent = .inl factory →
      NewClass book entered rule (.entity (factory.populate rule))
        (factory.populate rule).attributes →
      (factory.populate rule).children = [] →
      (factory.populate rule).parent = some rule.parent →
      book.entityFactory rule.parent = some parentFactory →
      ClassInstalled book changes rule
        (updateProperties (entered.setEntityFactory rule.parent
            { parentFactory with children := parentFactory.children ++ [rule.id] }).depthBound
          (entered.setEntityFactory rule.parent
            { parentFactory with children := parentFactory.children ++ [rule.id] }, changes)
          rule.parent)

section

variable (planted : book.Planted) {result : RuleBook × Changes}

include planted

theorem classInstalled_of_installEntityClass
    (installed : book.installEntityClass changes rule = .installed result) :
    ClassInstalled book changes rule result := by
  unfold installEntityClass at installed
  cases isNew : book.newEntityFactory rule.id rule.parent with
  | inr reason => simp [isNew] at installed
  | inl fresh =>
    cases isInstalled : book.installFactory rule (.entity (fresh.populate rule)) with
    | none => simp [isNew, isInstalled] at installed
    | some entered =>
      simp only [isNew, isInstalled, InstallResult.installed.injEq] at installed
      subst installed
      have newClass := installFactory_newClass planted.typed isInstalled
        (fresh.populate rule).attributes
      obtain ⟨-, noChildren, place⟩ := newEntityFactory_fresh isNew
      obtain ⟨sameParent, sameChildren⟩ := fresh.populate_parent rule
      have childless := sameChildren.trans noChildren
      rcases place with ⟨isRoot, noParent, -⟩ | ⟨-, isParent, parentFactory, known⟩
      · rw [joinParent, isRoot, newClass.noFactory planted]
        exact .root isNew newClass childless (sameParent.trans noParent)
      · have parentKnown : (entered.addProperties rule.id
            (fresh.populate rule).attributes).entityFactory rule.parent =
              some parentFactory := by
          rw [newClass.entityFactory, if_neg newClass.different, known]
        rw [joinParent, parentKnown]
        exact .child isNew newClass childless (sameParent.trans isParent) known

theorem Planted.classInstalled
    (installed : ClassInstalled book changes rule result) : result.1.Planted := by
  cases installed with
  | root _ newClass childless noParent => exact newClass.planted_root planted childless noParent
  | child _ newClass childless isParent known =>
    have grown := newClass.planted_child planted childless isParent known
    exact grown.updateProperties ((newClass.joined_entityFactory _ _).trans (if_pos rfl)) changes

end

variable {result : RuleBook × Changes}

theorem modifyEntityClass_eq
    (modified : book.modifyEntityClass changes rule = some result) :
    ∃ factory old, book.entityFactory rule.id = some old ∧ shape factory = shape old ∧
      result = updateProperties (book.setEntityFactory rule.id factory).depthBound
        (book.setEntityFactory rule.id factory, changes) rule.id := by
  unfold modifyEntityClass at modified
  cases known : book.entityFactory rule.id with
  | none => simp [known] at modified
  | some old =>
    simp only [known, Option.some.injEq] at modified
    refine ⟨_, old, rfl, ?_, modified.symm⟩
    rw [shape, (EntityFactory.populate_parent _ rule).1, (EntityFactory.populate_parent _ rule).2]
    rfl

/-- An archetype that is installed is entered, and its parent is told. -/
theorem installArchetypeClass_eq (planted : book.Planted) {result : RuleBook × Changes}
    (installed : book.installArchetypeClass changes rule = .installed result) :
    ∃ factory entered,
      NewClass book entered rule (.archetype factory) factory.attributes ∧ result.2 = changes ∧
      result.1.atlasObjects = entered.atlasObjects ∧
      (∀ name, result.1.entityFactory name = book.entityFactory name) ∧
      book.depthBound ≤ result.1.depthBound ∧
      (∀ name kit, result.1.entityFactories[name]? = some kit → entered.hasClass name = true) ∧
      (∃ parentFactory, book.archetypeFactory rule.parent = some parentFactory ∧
        factory = { parentFactory with
          classEntities := ∅
          classThoughts := []
          parent := some rule.parent
          children := [] : ArchetypeFactory }.populate rule) ∧
      result.1.propertyFactories = book.propertyFactories ∧
      ∀ name, (result.1.archetypeFactory name).map ArchetypeFactory.contents =
        (entered.archetypeFactory name).map ArchetypeFactory.contents := by
  unfold installArchetypeClass at installed
  cases isParent : book.archetypeFactory rule.parent with
  | none => simp [isParent] at installed
  | some parentFactory =>
    simp only [isParent] at installed
    split at installed
    case h_1 => simp at installed
    case h_2 added isInstalled =>
        have newClass := fun attributes =>
          installFactory_newClass planted.typed isInstalled attributes
        have typed : ∀ attributes name kit,
            (added.addProperties rule.id attributes).entityFactories[name]? = some kit →
            (added.addProperties rule.id attributes).hasClass name = true := by
          intro attributes name kit known
          rw [(newClass attributes).kits] at known
          split_ifs at known with isNew
          · subst isNew
            obtain ⟨node, isNode, -⟩ := (newClass attributes).type
            exact hasClass_of_getElem? isNode
          · obtain ⟨node, isNode⟩ := getElem?_of_hasClass (planted.typed name kit known)
            obtain ⟨changedNode, isChanged, -⟩ := (newClass attributes).before isNode
            exact hasClass_of_getElem? isChanged
        have noClass : book.entityFactories[rule.id]? = none := by
          cases found : book.entityFactories[rule.id]? with
          | none => rfl
          | some kit =>
            obtain ⟨node, isNode⟩ := getElem?_of_hasClass (planted.typed _ kit found)
            rw [(newClass ∅).new] at isNode
            contradiction
        have factories : ∀ attributes name,
            (added.addProperties rule.id attributes).entityFactory name =
              book.entityFactory name := by
          intro attributes name
          unfold entityFactory
          rw [(newClass attributes).kits]
          split_ifs with isNew
          · subst isNew
            rw [noClass]
          · rfl
        split at installed
        case h_1 =>
            obtain rfl := InstallResult.installed.inj installed
            exact ⟨_, _, newClass _, rfl, rfl, factories _, (newClass _).depthBound ▸ Nat.le_succ _,
              typed _, ⟨parentFactory, rfl, rfl⟩, (newClass _).manager, fun _ => rfl⟩
        case h_2 joined isJoined =>
            obtain rfl := InstallResult.installed.inj installed
            refine ⟨_, _, newClass _, rfl, rfl, ?_, ?_, ?_, ⟨parentFactory, rfl, rfl⟩,
              (newClass _).manager, ?_⟩
            · intro name
              rw [← factories]
              unfold archetypeFactory at isJoined
              unfold entityFactory
              by_cases same : rule.parent = name
              · subst same
                rw [getElem?_insert_self]
                cases found : (added.addProperties rule.id _).entityFactories[rule.parent]? with
                | none => rfl
                | some kit =>
                  cases kit with
                  | entity factory =>
                    rw [found] at isJoined
                    contradiction
                  | archetype factory => rfl
              · rw [getElem?_insert]
                simp [same]
            · apply (Nat.le_succ book.depthBound).trans
              rw [Nat.succ_eq_add_one, ← (newClass _).depthBound]
              exact size_le_size_insert
            · intro name kit known
              by_cases same : rule.parent = name
              · subst same
                obtain ⟨node, isNode⟩ := getElem?_of_hasClass (newClass ∅).parentKnown
                obtain ⟨changedNode, isChanged, -⟩ := (newClass _).before isNode
                exact hasClass_of_getElem? isChanged
              · rw [getElem?_insert] at known
                simp only [Std.LawfulEqCmp.compare_eq_iff_eq, same, if_false] at known
                exact typed _ name kit known
            · intro name
              by_cases same : rule.parent = name
              · subst same
                rw [isJoined, archetypeFactory, getElem?_insert_self]
                rfl
              · rw [archetypeFactory, getElem?_insert]
                simp only [Std.LawfulEqCmp.compare_eq_iff_eq, same, if_false]
                rfl

theorem installOpDefinition_eq
    (installed : book.installOpDefinition changes rule = .installed result) :
    Entered book result.1 rule ∧ result.2 = changes := by
  unfold installOpDefinition at installed
  split_ifs at installed
  cases added : book.addChild rule with
  | none => simp [added] at installed
  | some changed =>
    simp only [added, InstallResult.installed.injEq] at installed
    subst installed
    exact ⟨addChild_entered added, rfl⟩

theorem installPropertyType_eq
    (installed : book.installPropertyType changes rule = .installed result) :
    result = (book, changes) ∨ ∃ entered, Entered book entered rule ∧ result.2 = changes ∧
      result.1.atlasObjects = entered.atlasObjects ∧
      result.1.entityFactories = entered.entityFactories := by
  unfold installPropertyType at installed
  split_ifs at installed
  cases isKit : book.propertyFactories[rule.parent]? with
  | none => simp [isKit] at installed
  | some kit =>
    cases added : book.addChild rule with
    | none =>
      simp only [isKit, added, InstallResult.installed.injEq] at installed
      exact Or.inl installed.symm
    | some changed =>
      simp only [isKit, added, InstallResult.installed.injEq] at installed
      subst installed
      exact Or.inr ⟨changed, addChild_entered added, rfl, rfl, rfl⟩

theorem Planted.congr {book changed : RuleBook} (planted : book.Planted)
    (types : changed.atlasObjects = book.atlasObjects)
    (factories : changed.entityFactories = book.entityFactories) : changed.Planted := by
  apply planted.of_factories
  · intro name
    rw [entityFactory, factories, ← entityFactory]
  · have same : changed.depthBound = book.depthBound := by
      rw [depthBound, factories, depthBound]
    exact same.ge
  · intro name known
    rw [hasClass, types]
    exact known
  · intro name kit known
    rw [factories] at known
    rw [hasClass, types]
    exact planted.typed name kit known

/-- What a small step can do. -/
inductive SmallStep (state : RuleBook × Changes) : BatchAction → RuleBook × Changes → Prop
  | idle (action : BatchAction) : SmallStep state action state
  | waiting (action : BatchAction) {result : RuleBook × Changes} :
      result.1.atlasObjects = state.1.atlasObjects →
      result.1.entityFactories = state.1.entityFactories → result.2 = state.2 →
      SmallStep state action result
  | entered {rule : Description} {entered : RuleBook} {result : RuleBook × Changes} :
      Entered state.1 entered rule → result.1.atlasObjects = entered.atlasObjects →
      result.1.entityFactories = entered.entityFactories → result.2 = state.2 →
      SmallStep state (.install rule) result
  | archetype {rule : Description} {entered : RuleBook} {factory : ArchetypeFactory}
      {result : RuleBook × Changes} :
      rule.objtype = .archetype →
      NewClass state.1 entered rule (.archetype factory) factory.attributes →
      result.2 = state.2 → result.1.atlasObjects = entered.atlasObjects →
      (∀ name, result.1.entityFactory name = state.1.entityFactory name) →
      state.1.depthBound ≤ result.1.depthBound →
      (∀ name kit, result.1.entityFactories[name]? = some kit → entered.hasClass name = true) →
      SmallStep state (.install rule) result
  | entityClass {rule : Description} {result : RuleBook × Changes} :
      rule.objtype = .entityClass → ClassInstalled state.1 state.2 rule result →
      SmallStep state (.install rule) result
  | modified {rule : Description} {factory old : EntityFactory} :
      state.1.entityFactory rule.id = some old → shape factory = shape old →
      SmallStep state (.modify rule)
        (updateProperties (state.1.setEntityFactory rule.id factory).depthBound
          (state.1.setEntityFactory rule.id factory, state.2) rule.id)

section

variable {state}

theorem smallStep_installRuleInner (planted : state.1.Planted)
    (installed : state.1.installRuleInner state.2 rule = .installed result) :
    SmallStep state (.install rule) result := by
  unfold installRuleInner at installed
  split_ifs at installed
  cases isKind : rule.objtype with
  | opDefinition =>
    rw [isKind] at installed
    obtain ⟨entered, changes⟩ := installOpDefinition_eq installed
    exact .entered entered rfl rfl changes
  | entityClass =>
    rw [isKind] at installed
    exact .entityClass isKind (classInstalled_of_installEntityClass planted installed)
  | propertyType =>
    rw [isKind] at installed
    rcases installPropertyType_eq installed with rfl | ⟨entered, isEntered, changes, types, kits⟩
    · exact .idle _
    · exact .entered isEntered types kits changes
  | archetype =>
    rw [isKind] at installed
    obtain ⟨factory, entered, newClass, changes, types, factories, bound, typed, -⟩ :=
      installArchetypeClass_eq planted installed
    exact .archetype isKind newClass changes types factories bound typed
  | other => simp [isKind] at installed

theorem smallStep_modifyRuleInner
    (modified : state.1.modifyRuleInner state.2 rule = some result) :
    SmallStep state (.modify rule) result := by
  unfold modifyRuleInner at modified
  cases isNode : state.1.atlasObjects[rule.id]? with
  | none => simp [isNode] at modified
  | some node =>
    simp only [isNode] at modified
    split_ifs at modified
    cases isKind : rule.objtype with
    | opDefinition =>
      simp only [isKind, Option.some.injEq] at modified
      exact modified ▸ .idle _
    | entityClass =>
      simp only [isKind] at modified
      obtain ⟨factory, old, known, same, rfl⟩ := modifyEntityClass_eq modified
      exact .modified known same
    | propertyType =>
      simp only [isKind, Option.some.injEq] at modified
      exact modified ▸ .idle _
    | archetype => simp [isKind] at modified
    | other => simp [isKind] at modified

end

theorem smallStep_batchStep {state : RuleBook × Changes} (planted : state.1.Planted)
    (action : BatchAction) : SmallStep state action (batchStep state action) := by
  cases action with
  | install rule =>
    cases outcome : state.1.installRuleInner state.2 rule with
    | installed result =>
      simp only [batchStep, outcome]
      exact smallStep_installRuleInner planted outcome
    | failed =>
      simp only [batchStep, outcome]
      exact .idle _
    | waits dependent reason =>
      simp only [batchStep, outcome]
      exact .idle _
  | modify rule =>
    cases outcome : state.1.modifyRuleInner state.2 rule with
    | none =>
      simp only [batchStep, outcome, getD_none]
      exact .idle _
    | some result =>
      simp only [batchStep, outcome, getD_some]
      exact smallStep_modifyRuleInner outcome
  | wait rule dependent reason => exact .waiting _ rfl rfl rfl
  | release name => exact .waiting _ rfl rfl rfl

theorem Planted.smallStep {state result : RuleBook × Changes} {action : BatchAction}
    (planted : state.1.Planted) (step : SmallStep state action result) : result.1.Planted := by
  cases step with
  | idle => exact planted
  | waiting _ types kits _ => exact planted.congr types kits
  | entered entered types kits _ => exact (planted.entered entered).congr types kits
  | @archetype _ entered _ _ _ newClass _ sameTypes factories bound typed =>
    have types : ∀ name, result.1.hasClass name = entered.hasClass name := by
      intro name
      rw [hasClass, sameTypes, hasClass]
    apply planted.of_factories factories bound
    · intro name known
      rw [types]
      obtain ⟨node, isNode⟩ := getElem?_of_hasClass known
      obtain ⟨changedNode, isChanged, -⟩ := newClass.before isNode
      exact hasClass_of_getElem? isChanged
    · intro name kit known
      rw [types]
      exact typed name kit known
  | entityClass _ installed => exact planted.classInstalled installed
  | modified known same =>
    apply (planted.sameShape (sameShape_setEntityFactory known same)).updateProperties
    rw [entityFactory_setEntityFactory, if_pos rfl]

end RuleBook

end Cyphesis.Ruleset
