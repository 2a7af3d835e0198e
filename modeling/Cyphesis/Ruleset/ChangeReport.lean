import Cyphesis.Ruleset.Batch
import Cyphesis.Ruleset.InheritedAttributes

/-!
# The change report of a batch

An update of a type says which default properties are new, changed and removed.
-/

namespace Cyphesis.Ruleset

open Std (ExtTreeMap)
open Cyphesis.Atlas Option Std.ExtTreeMap
open Cyphesis.Common
open Cyphesis.Foundation

/-- A changed default is noted. -/
def Noted (name : String) (before after : Option Property) (update : Option PropertiesUpdate) :
    Prop :=
  match before, after with
  | none, none => True
  | none, some _ => ∃ entry, update = some entry ∧ name ∈ entry.newProps
  | some _, none => ∃ entry, update = some entry ∧ name ∈ entry.removedProps
  | some old, some new =>
    old.data ≠ new.data → ∃ entry, update = some entry ∧ name ∈ entry.changedProps

theorem noted_refl (name : String) (property : Option Property)
    (update : Option PropertiesUpdate) : Noted name property property update := by
  cases property with
  | none => trivial
  | some property => exact fun different => absurd rfl different

theorem Noted.trans {name : String} {first second third : Option Property}
    {update : Option PropertiesUpdate} (left : Noted name first second none)
    (right : Noted name second third update) : Noted name first third update := by
  cases first with
  | none =>
    cases second with
    | none => exact right
    | some middle =>
      obtain ⟨entry, isEntry, -⟩ := left
      contradiction
  | some old =>
    cases second with
    | none =>
      obtain ⟨entry, isEntry, -⟩ := left
      contradiction
    | some middle =>
      have same : old.data = middle.data := by
        by_contra different
        obtain ⟨entry, isEntry, -⟩ := left different
        contradiction
      cases third with
      | none => exact right
      | some new => exact fun different => right (same ▸ different)

namespace TypeNode

theorem Rebuild.updateEntry_removedProps (manager : PropertyManager) (state : Rebuild)
    (name : String) (value : Element) :
    (state.updateEntry manager name value).propertiesUpdate.removedProps =
      state.propertiesUpdate.removedProps := by
  unfold Rebuild.updateEntry Rebuild.addEntry Rebuild.changeEntry Rebuild.publish
  split_ifs
  · rfl
  · split
    · simp only
      split_ifs <;> rfl
    · split_ifs <;> rfl

section

variable (node : TypeNode) (attributes : MapType) (manager : PropertyManager)

theorem updateProperties_removedProps :
    (node.updateProperties attributes manager).2.removedProps =
      (node.removedNames attributes).toFinset := by
  unfold updateProperties
  simp only
  rw [foldl_eq_foldl_toList]
  apply run_invariant_of_step (fun state : Rebuild => state.propertiesUpdate.removedProps =
    (node.removedNames attributes).toFinset) _ rfl
  intro state entry same
  rw [Rebuild.updateEntry_removedProps, same]

theorem updateProperties_noted
    (name : String) :
    Noted name node.defaults[name]? (node.updateProperties attributes manager).1.defaults[name]?
      (some (node.updateProperties attributes manager).2) := by
  cases isAttribute : attributes[name]? with
  | none =>
    rw [updateProperties_default_of_gone manager isAttribute]
    cases held : node.defaults[name]? with
    | none => trivial
    | some property =>
      cases ephemeral : property.hasFlags propFlagPersistenceEphem with
      | true =>
        rw [filter_some, ephemeral]
        exact noted_refl name (some property) _
      | false =>
        rw [filter_some, ephemeral]
        refine ⟨_, rfl, ?_⟩
        rw [updateProperties_removedProps, List.mem_toFinset, mem_removedNames]
        exact ⟨isAttribute, property, held, ephemeral⟩
  | some value =>
    have slot := node.updateProperties_slot attributes manager name
    rw [updatedSlot, isAttribute, elim_some] at slot
    have kept : (node.keptSlot attributes name).default = node.defaults[name]? :=
      keptSlot_default_of_attribute isAttribute
    rw [updateProperties_default_of_attribute manager isAttribute]
    unfold updatedDefault
    unfold Slot.update at slot
    rw [kept] at slot
    cases valid : PropertyUtil.isValidName name with
    | false => exact noted_refl name _ _
    | true =>
      simp only [valid, Bool.not_true, Bool.false_eq_true, if_false] at slot ⊢
      cases held : node.defaults[name]? with
      | none =>
        simp only [held] at slot ⊢
        split_ifs at slot ⊢ with instanceOnly
        · trivial
        · have isNew := congrArg Slot.isNew slot
          exact ⟨_, rfl, of_eq_true isNew⟩
      | some property =>
        simp only [held] at slot ⊢
        split_ifs at slot ⊢ with differs
        · have isChanged := congrArg Slot.isChanged slot
          exact fun _ => ⟨_, rfl, of_eq_true isChanged⟩
        · exact noted_refl name (some property) _

end

end TypeNode

namespace RuleBook

/-- All about defaults is in the changes. -/
def Reports (start : RuleBook) (state : RuleBook × Changes) : Prop :=
  ∀ type name, Noted name (start.defaultOf type name) (state.1.defaultOf type name) state.2[type]?

theorem Reports.visited {start book : RuleBook} {changes : Changes} {result : RuleBook × Changes}
    {visited : String → Prop} (reports : Reports start (book, changes))
    (visits : Visited book changes result visited)
    (unreported : ∀ type, visited type → changes[type]? = none) : Reports start result := by
  intro type name
  by_cases isVisited : visited type
  · obtain ⟨node, factory, isNode, -, isUpdated, isEntry⟩ := visits.inside type isVisited
    have before := reports type name
    rw [unreported type isVisited, getD_none] at isEntry
    simp only [unreported type isVisited] at before
    rw [isEntry]
    apply before.trans
    rw [defaultOf, isNode, defaultOf, isUpdated]
    exact node.updateProperties_noted factory.attributes book.propertyFactories name
  · obtain ⟨sameNode, -, sameEntry⟩ := visits.outside type isVisited
    have same : result.1.defaultOf type name = book.defaultOf type name := by
      rw [defaultOf, sameNode, defaultOf]
    rw [same, sameEntry]
    exact reports type name

/-- State of a batch. -/
structure Reporting (start : RuleBook) (state : RuleBook × Changes) : Prop where
  planted : state.1.Planted
  reports : Reports start state
  known : ∀ type, start.hasClass type = true → state.1.hasClass type = true
  entries : ∀ type, state.2[type]?.isSome = true → state.1.hasClass type = true

/-- Nothing below it is in the changes. -/
def Unreported (state : RuleBook × Changes) : BatchAction → Prop
  | .install rule =>
    match rule.objtype with
    | .entityClass =>
      (∀ type, Below state.1 rule.parent type → state.2[type]? = none) ∧
      ∀ factory, state.1.newEntityFactory rule.id rule.parent = .inl factory →
        ∀ name : String, CanBeDefault state.1.propertyFactories name →
          (factory.populate rule).attributes[name]? = none
    | .archetype =>
      ¬ CanBeDefault state.1.propertyFactories "entities" ∧
      ¬ CanBeDefault state.1.propertyFactories "thoughts"
    | _ => True
  | .modify rule => ∀ type, Below state.1 rule.id type → state.2[type]? = none
  | _ => True

section Step

variable {start : RuleBook} {state : RuleBook × Changes} (reporting : Reporting start state)

include reporting

section

variable {type : String} (unknown : state.1.atlasObjects[type]? = none)

include unknown

theorem Reporting.new : (∀ name, start.defaultOf type name = none) ∧ state.2[type]? = none := by
  have notKnown : state.1.hasClass type ≠ true := by
    intro known
    obtain ⟨node, isNode⟩ := getElem?_of_hasClass known
    rw [unknown] at isNode
    contradiction
  constructor
  · intro name
    cases isNode : start.atlasObjects[type]? with
    | none => rw [defaultOf, isNode, bind_none]
    | some node => exact absurd (reporting.known type (hasClass_of_getElem? isNode)) notKnown
  · cases isEntry : state.2[type]? with
    | none => rfl
    | some entry =>
      exact absurd (reporting.entries type (by rw [isEntry, isSome_some])) notKnown

theorem Reporting.reports_new {changed : RuleBook}
    (noDefaults : ∀ name, changed.defaultOf type name = none)
    (others : ∀ other : String, other ≠ type → changed.atlasObjects[other]?.map TypeNode.defaults =
      state.1.atlasObjects[other]?.map TypeNode.defaults) : Reports start (changed, state.2) := by
  intro other name
  by_cases isNew : other = type
  · subst isNew
    rw [noDefaults name, (reporting.new unknown).1 name]
    trivial
  · rw [defaultOf_congr (others other isNew) name]
    exact reporting.reports other name

end

end Step

theorem madeDefault_eq_none {manager : PropertyManager} {name : String} {value : Element}
    (cannot : ¬ CanBeDefault manager name) : TypeNode.madeDefault manager name value = none := by
  unfold TypeNode.madeDefault
  unfold CanBeDefault at cannot
  cases valid : PropertyUtil.isValidName name with
  | false => rfl
  | true =>
    rw [valid] at cannot
    simp only [true_and, Bool.not_eq_false] at cannot
    simp [cannot]

variable {book changed : RuleBook} {rule : Description} {kit : EntityKit} {attributes : MapType}

theorem NewClass.defaultOf_eq_none (newClass : NewClass book changed rule kit attributes)
    (cannot : ∀ name : String, CanBeDefault book.propertyFactories name →
      attributes[name]? = none) (name : String) : changed.defaultOf rule.id name = none := by
  obtain ⟨node, isNode, -⟩ := newClass.type
  rw [defaultOf, isNode, bind_some, newClass.made node isNode name]
  cases isAttribute : attributes[name]? with
  | none => rfl
  | some value =>
    rw [bind_some]
    apply madeDefault_eq_none
    intro can
    rw [cannot name can] at isAttribute
    contradiction

theorem NewClass.below
    {factory parentFactory : EntityFactory} (planted : book.Planted)
    (newClass : NewClass book changed rule (.entity factory) factory.attributes)
    (known : book.entityFactory rule.parent = some parentFactory) {top type : String}
    (below : Below (changed.setEntityFactory rule.parent
      { parentFactory with children := parentFactory.children ++ [rule.id] }) top type) :
    type = rule.id ∨ Below book top type := by
  obtain ⟨rank, forest⟩ := planted.forest
  induction below with
  | self => exact Or.inr .self
  | @child type parent typeFactory typeKnown isParent _ ih =>
    rw [newClass.joined_entityFactory] at typeKnown
    have before : type = rule.id ∨
        ∃ old, book.entityFactory type = some old ∧ old.parent = some parent := by
      split_ifs at typeKnown with isJoined isNew
      · subst isJoined
        obtain rfl := Option.some.inj typeKnown
        exact Or.inr ⟨parentFactory, known, isParent⟩
      · exact Or.inl isNew.symm
      · exact Or.inr ⟨typeFactory, typeKnown, isParent⟩
    rcases before with isNew | ⟨old, isOld, isParent⟩
    · exact Or.inl isNew
    · rcases ih with rfl | below
      · exact absurd isParent (newClass.not_parent planted.typed forest isOld)
      · exact Or.inr (.child isOld isParent below)

/-- Such a step keeps the report complete. -/
theorem Reporting.smallStep {start : RuleBook} {state result : RuleBook × Changes}
    {action : BatchAction} (reporting : Reporting start state)
    (unreported : Unreported state action) (step : SmallStep state action result) :
    Reports start result := by
  cases step with
  | idle => exact reporting.reports
  | waiting _ types _ changes =>
    intro type name
    rw [changes, show result.1.defaultOf type name = state.1.defaultOf type name by
      rw [defaultOf, types, defaultOf]]
    exact reporting.reports type name
  | @entered rule entered _ isEntered types _ changes =>
    have reports : Reports start (entered, state.2) := by
      apply reporting.reports_new isEntered.new
      · intro name
        rw [defaultOf, isEntered.type, bind_some]
        exact getElem?_empty
      · intro other notNew
        exact isEntered.defaults notNew
    intro type name
    rw [changes, show result.1.defaultOf type name = entered.defaultOf type name by
      rw [defaultOf, types, defaultOf]]
    exact reports type name
  | @archetype rule entered factory _ isArchetype newClass changes types =>
    have reports : Reports start (entered, state.2) := by
      apply reporting.reports_new newClass.new
      · apply newClass.defaultOf_eq_none
        intro name can
        simp only [Unreported, isArchetype] at unreported
        have notEntities : "entities" ≠ name := by
          rintro rfl
          exact unreported.1 can
        have notThoughts : "thoughts" ≠ name := by
          rintro rfl
          exact unreported.2 can
        simp [ArchetypeFactory.attributes, notEntities, notThoughts]
      · exact newClass.defaults
    intro type name
    rw [changes, show result.1.defaultOf type name = entered.defaultOf type name by
      rw [defaultOf, types, defaultOf]]
    exact reports type name
  | @entityClass rule _ isClass installed =>
    simp only [Unreported, isClass] at unreported
    obtain ⟨fresh, cannot⟩ := unreported
    cases installed with
    | @root factory entered isFactory newClass =>
      exact reporting.reports_new newClass.new
        (newClass.defaultOf_eq_none (cannot factory isFactory)) newClass.defaults
    | @child factory parentFactory entered isFactory newClass childless isParent known =>
      have reports : Reports start (entered.setEntityFactory rule.parent
          { parentFactory with children := parentFactory.children ++ [rule.id] }, state.2) :=
        reporting.reports_new newClass.new
          (newClass.defaultOf_eq_none (cannot factory isFactory)) newClass.defaults
      have planted := newClass.planted_child reporting.planted childless isParent known
      obtain ⟨rank, forest⟩ := planted.forest
      have parentKnown := (newClass.joined_entityFactory
        { parentFactory with children := parentFactory.children ++ [rule.id] }
        rule.parent).trans (if_pos rfl)
      apply reports.visited (updateProperties_visited forest parentKnown state.2
        (Nat.le_add_right _ _))
      intro type below
      rcases newClass.below reporting.planted known below with rfl | below
      · exact (reporting.new newClass.new).2
      · exact fresh type below
  | @modified rule factory old known same =>
    have shapes := sameShape_setEntityFactory known same
    obtain ⟨rank, forest⟩ := (reporting.planted.sameShape shapes).forest
    have nowKnown : (state.1.setEntityFactory rule.id factory).entityFactory rule.id =
        some factory := by
      rw [entityFactory_setEntityFactory, if_pos rfl]
    have reports : Reports start (state.1.setEntityFactory rule.id factory, state.2) :=
      reporting.reports
    apply reports.visited (updateProperties_visited forest nowKnown state.2 (Nat.le_add_right _ _))
    intro type below
    exact unreported type (below.of_sameShape shapes)

theorem NewClass.hasClass_of (newClass : NewClass book changed rule kit attributes) {type : String}
    (known : book.hasClass type = true) : changed.hasClass type = true := by
  obtain ⟨node, isNode⟩ := getElem?_of_hasClass known
  obtain ⟨changedNode, isChanged, -⟩ := newClass.before isNode
  exact hasClass_of_getElem? isChanged

theorem hasClass_congr (types : changed.atlasObjects = book.atlasObjects)
    (type : String) : changed.hasClass type = book.hasClass type := by
  rw [hasClass, types, hasClass]

/-- The entries of a state belong to types. -/
def EntriesTyped (state : RuleBook × Changes) : Prop :=
  ∀ type, state.2[type]?.isSome = true → state.1.hasClass type = true

theorem EntriesTyped.visited {book : RuleBook} {changes : Changes} {result : RuleBook × Changes}
    {visited : String → Prop} (typed : EntriesTyped (book, changes))
    (visits : Visited book changes result visited) : EntriesTyped result := by
  intro type isEntry
  by_cases isVisited : visited type
  · obtain ⟨node, factory, -, -, isUpdated, -⟩ := visits.inside type isVisited
    exact hasClass_of_getElem? isUpdated
  · rw [(visits.outside type isVisited).2.2] at isEntry
    rw [visits.sameShape.hasClass]
    exact typed type isEntry

section

variable {state result : RuleBook × Changes} {action : BatchAction}

theorem SmallStep.hasClass
    (step : SmallStep state action result) (planted : state.1.Planted) {type : String}
    (known : state.1.hasClass type = true) : result.1.hasClass type = true := by
  cases step with
  | idle => exact known
  | waiting _ types _ _ => exact (hasClass_congr types type).trans known
  | entered isEntered types _ _ =>
    rw [hasClass_congr types]
    exact (isEntered.hasClass_iff type).mpr (Or.inr known)
  | archetype _ newClass _ types =>
    rw [hasClass_congr types]
    exact newClass.hasClass_of known
  | entityClass _ installed =>
    cases installed with
    | root _ newClass => exact newClass.hasClass_of known
    | child _ newClass childless isParent parentKnown =>
      have grown := newClass.planted_child planted childless isParent parentKnown
      obtain ⟨rank, forest⟩ := grown.forest
      have visits := updateProperties_visited forest
        ((newClass.joined_entityFactory _ _).trans (if_pos rfl)) state.2 (Nat.le_add_right _ _)
      rw [visits.sameShape.hasClass]
      exact newClass.hasClass_of known
  | modified isOld same =>
    have shapes := sameShape_setEntityFactory isOld same
    obtain ⟨rank, forest⟩ := (planted.sameShape shapes).forest
    have visits := updateProperties_visited forest
      ((state.1.entityFactory_setEntityFactory _ _ _).trans (if_pos rfl)) state.2
      (Nat.le_add_right _ _)
    rw [visits.sameShape.hasClass, shapes.hasClass]
    exact known

theorem EntriesTyped.smallStep
    (typed : EntriesTyped state) (planted : state.1.Planted)
    (step : SmallStep state action result) : EntriesTyped result := by
  have kept : ∀ changed : RuleBook × Changes, changed.2 = state.2 →
      (∀ type, state.1.hasClass type = true → changed.1.hasClass type = true) →
      EntriesTyped changed := by
    intro changed sameChanges stays type isEntry
    rw [sameChanges] at isEntry
    exact stays type (typed type isEntry)
  have stays : ∀ type, state.1.hasClass type = true → result.1.hasClass type = true :=
    fun _ => step.hasClass planted
  cases step with
  | idle => exact typed
  | waiting _ _ _ changes => exact kept _ changes stays
  | entered _ _ _ changes => exact kept _ changes stays
  | archetype _ _ changes => exact kept _ changes stays
  | entityClass _ installed =>
    cases installed with
    | root => exact kept _ rfl stays
    | child _ newClass childless isParent parentKnown =>
      have grown := newClass.planted_child planted childless isParent parentKnown
      obtain ⟨rank, forest⟩ := grown.forest
      have visits := updateProperties_visited forest
        ((newClass.joined_entityFactory _ _).trans (if_pos rfl)) state.2 (Nat.le_add_right _ _)
      refine EntriesTyped.visited ?_ visits
      apply kept
      · rfl
      · exact fun _ => newClass.hasClass_of
  | modified isOld same =>
    have shapes := sameShape_setEntityFactory isOld same
    obtain ⟨rank, forest⟩ := (planted.sameShape shapes).forest
    have visits := updateProperties_visited forest
      ((state.1.entityFactory_setEntityFactory _ _ _).trans (if_pos rfl)) state.2
      (Nat.le_add_right _ _)
    refine EntriesTyped.visited ?_ visits
    apply kept
    · rfl
    · exact fun type known => (shapes.hasClass type).trans known

end

theorem Reporting.step {start : RuleBook} {state : RuleBook × Changes} {action : BatchAction}
    (reporting : Reporting start state) (unreported : Unreported state action) :
    Reporting start (batchStep state action) := by
  have step := smallStep_batchStep reporting.planted action
  exact
    { planted := reporting.planted.smallStep step
      reports := reporting.smallStep unreported step
      known := fun type known => step.hasClass reporting.planted (reporting.known type known)
      entries := EntriesTyped.smallStep reporting.entries reporting.planted step }

theorem Planted.reporting {book : RuleBook} (planted : book.Planted) : Reporting book
    (book, ∅) where
  planted := planted
  reports type name := noted_refl name _ _
  known _ known := known
  entries type isEntry := by
    rw [getElem?_empty] at isEntry
    contradiction

theorem defaultOf_publish (book : RuleBook) (changes : Changes) (type name : String) :
    (book.publish changes).defaultOf type name = book.defaultOf type name := by
  unfold publish
  rw [foldl_eq_foldl_toList]
  generalize changes.toList = entries
  induction entries generalizing book with
  | nil => rfl
  | cons entry entries ih =>
    rw [List.foldl_cons, ih]
    cases known : book.atlasObjects[entry.1]? with
    | none => rfl
    | some node =>
      simp only [updateClass, known, ne_eq, not_true_eq_false, if_false]
      apply defaultOf_congr
      rw [atlasObjects_setType]
      split_ifs with same
      · subst same
        rw [known]
        rfl
      · rfl

/-- If every small step of a batch meets the condition, the types reported as changed are those that
did change. -/
theorem Batch.reports {book : RuleBook} (planted : book.Planted) (batch : Batch)
    (admissible : Admissible batchStep Unreported (book, ∅) (batch.trace book)) :
    Reports book (batch.outcome book) := by
  have reporting : Reporting book (run batchStep (book, ∅) (batch.trace book)) :=
    run_invariant (Reporting book) (fun _ _ reporting unreported => reporting.step unreported)
      planted.reporting admissible
  rw [batch.outcome_eq book]
  intro type name
  cases batch.publishes with
  | false => exact reporting.reports type name
  | true =>
    simp only [if_true]
    rw [defaultOf_publish]
    exact reporting.reports type name

/-- Apples are things. -/
def appleBook : RuleBook :=
  (run batchStep (builtinBook, ∅)
    [.install (plainDescription "thing" "game_entity" .entityClass),
      .install (plainDescription "apple" "thing" .entityClass)]).1

theorem appleBook_planted : appleBook.Planted := by
  have start : (builtinBook, (∅ : Changes)).1.Planted := builtinBook_unruled.sound.toPlanted
  exact run_invariant_of_step (fun state : RuleBook × Changes => state.1.Planted)
    (fun _ action planted => planted.smallStep (smallStep_batchStep planted action)) start _

/-- Things get a mass: nothing was reported. -/
theorem appleBook_modify_reports :
    Reports appleBook
      ((Batch.modifyRule (classRule "thing" "game_entity" "mass" (.int 1))).outcome appleBook) := by
  apply Batch.reports appleBook_planted
  constructor
  · exact fun _ _ => getElem?_empty
  · trivial

/-- Apples get a smell, then things a mass. -/
def appleChanges : RootDict :=
  ((∅ : RootDict).insert "apple" (classRule "apple" "thing" "smell" (.int 1))).insert "thing"
    (classRule "thing" "game_entity" "mass" (.int 2))

/-- The second update is not reported. -/
theorem appleBook_not_reports :
    appleBook.defaultOf "apple" "mass" = none ∧
    ((appleBook.processChangedRules appleChanges).1.defaultOf "apple" "mass").isSome = true ∧
    (appleBook.processChangedRules appleChanges).2["apple"]?.any
      (fun update => decide ("mass" ∉ update.newProps)) = true ∧
    ¬ Reports appleBook (appleBook.processChangedRules appleChanges) := by
  have before : (appleBook.defaultOf "apple" "mass").isNone = true := by decide +kernel
  have after : ((appleBook.processChangedRules appleChanges).1.defaultOf "apple" "mass").isSome =
      true := by
    decide +kernel
  have missing : (appleBook.processChangedRules appleChanges).2["apple"]?.any
      (fun update => decide ("mass" ∉ update.newProps)) = true := by
    decide +kernel
  rw [isNone_iff_eq_none] at before
  refine ⟨before, after, missing, ?_⟩
  intro reports
  have noted := reports "apple" "mass"
  obtain ⟨property, isProperty⟩ := Option.isSome_iff_exists.mp after
  rw [before, isProperty] at noted
  obtain ⟨update, isUpdate, isNew⟩ := noted
  rw [isUpdate, any_some, decide_eq_true_eq] at missing
  exact missing isNew

end RuleBook

end Cyphesis.Ruleset
