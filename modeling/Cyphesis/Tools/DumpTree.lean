import Cyphesis.Tools.EntityImporter
import Cyphesis.Tools.ExportedTree

/-!
# The tree of a file and the tables of the importer

The tree of the file is read into a table of entities and a table of the references.
-/

namespace Cyphesis.Tools

open Cyphesis.Atlas
open Std (ExtTreeMap)

namespace ExportedEntity

def message : ExportedEntity → EntityMessage
  | .mk message _ => message

def nested : ExportedEntity → List ExportedEntity
  | .mk _ contains => contains

/-- Identifier in the file. -/
def id (entity : ExportedEntity) : String :=
  entity.message.id.getD ""

mutual

/-- An entity and everything nested in it. -/
def subtrees : ExportedEntity → List ExportedEntity
  | .mk message contains => .mk message contains :: allSubtrees contains

/-- Some entities and everything nested in them. -/
def allSubtrees : List ExportedEntity → List ExportedEntity
  | [] => []
  | entity :: rest => entity.subtrees ++ allSubtrees rest

end

/-- What the importer persists of an entity. -/
def persisted (entity : ExportedEntity) : PersistedEntity where
  id := entity.id
  parent := entity.message.parent.getD ""
  attributes := entity.message.attributes
  contains := listedContains entity.message.attributes ++ entity.nested.map id

/-- References of an entity, unless it has none. -/
def references? (entity : ExportedEntity) : Option (List ReferencedEntry) :=
  if referencedEntries entity.message.attributes = [] then none
  else some (referencedEntries entity.message.attributes)

theorem subtrees_eq (entity : ExportedEntity) :
    entity.subtrees = entity :: allSubtrees entity.nested := by
  cases entity with
  | mk message contains => rw [subtrees, nested]

theorem self_mem_subtrees (entity : ExportedEntity) : entity ∈ entity.subtrees := by
  rw [subtrees_eq]
  exact List.mem_cons_self

variable {trees : List ExportedEntity}

theorem mem_allSubtrees {entity : ExportedEntity} :
    entity ∈ allSubtrees trees ↔ ∃ tree ∈ trees, entity ∈ tree.subtrees := by
  induction trees with
  | nil => simp [allSubtrees]
  | cons tree rest ih => simp [allSubtrees, ih]

theorem induct {motive : ExportedEntity → Prop}
    (node : ∀ message contains, (∀ child ∈ contains, motive child) →
      motive (.mk message contains)) (entity : ExportedEntity) : motive entity := by
  apply @ExportedEntity.rec motive (fun trees => ∀ child ∈ trees, motive child)
  · exact node
  · exact fun child isChild => absurd isChild List.not_mem_nil
  · intro tree rest isTree isRest child isChild
    rcases List.mem_cons.mp isChild with isFirst | isLater
    · rw [isFirst]
      exact isTree
    · exact isRest child isLater

theorem mem_subtrees_of_nested {child entity tree : ExportedEntity}
    (isNested : child ∈ entity.nested) (isSubtree : entity ∈ tree.subtrees) :
    child ∈ tree.subtrees := by
  induction tree using induct with
  | node message contains ih =>
    rw [subtrees, List.mem_cons, mem_allSubtrees] at isSubtree
    rw [subtrees]
    apply List.mem_cons_of_mem
    rw [mem_allSubtrees]
    rcases isSubtree with isRoot | ⟨tree, isTree, isBelow⟩
    · subst isRoot
      exact ⟨child, isNested, child.self_mem_subtrees⟩
    · exact ⟨tree, isTree, ih tree isTree isBelow⟩

theorem mem_allSubtrees_of_nested {child entity : ExportedEntity}
    (isNested : child ∈ entity.nested) (isSubtree : entity ∈ allSubtrees trees) :
    child ∈ allSubtrees trees := by
  rw [mem_allSubtrees] at isSubtree ⊢
  obtain ⟨tree, isTree, isBelow⟩ := isSubtree
  exact ⟨tree, isTree, mem_subtrees_of_nested isNested isBelow⟩

theorem allSubtrees_append (first second : List ExportedEntity) :
    allSubtrees (first ++ second) = allSubtrees first ++ allSubtrees second := by
  induction first with
  | nil => rfl
  | cons tree rest ih => rw [List.cons_append, allSubtrees, allSubtrees, ih, List.append_assoc]

end ExportedEntity

open ExportedEntity

/-- Identifiers differ; new ones are listed. -/
structure WellFormed (dump : List ExportedEntity) : Prop where
  identified : ∀ entity ∈ allSubtrees dump, entity.message.id = some entity.id
  named : ∀ entity ∈ allSubtrees dump, entity.id ≠ ""
  distinct : ((allSubtrees dump).map ExportedEntity.id).Nodup
  unexported : ∀ entity ∈ allSubtrees dump, ∀ child ∈ listedContains entity.message.attributes,
    child ∉ (allSubtrees dump).map ExportedEntity.id
  keys : ∀ entity ∈ allSubtrees dump, (entity.message.attributes.map (·.1)).Nodup

/-- The tables have been given some entities. -/
structure Extracted (before after : ImportTables) (trees : List ExportedEntity) : Prop where
  persisted : ∀ entity ∈ trees, after.persistedEntities[entity.id]? = some entity.persisted
  references : ∀ entity ∈ trees,
    after.entitiesWithReferenceAttributes[entity.id]? = entity.references?
  samePersisted : ∀ id : String, id ∉ trees.map ExportedEntity.id →
    after.persistedEntities[id]? = before.persistedEntities[id]?
  sameReferences : ∀ id : String, id ∉ trees.map ExportedEntity.id →
    after.entitiesWithReferenceAttributes[id]? = before.entitiesWithReferenceAttributes[id]?

/-- None of the entities is in the tables. -/
def Unread (tables : ImportTables) (trees : List ExportedEntity) : Prop :=
  ∀ entity ∈ trees, tables.persistedEntities[entity.id]? = none ∧
    tables.entitiesWithReferenceAttributes[entity.id]? = none

theorem extracted_nil (tables : ImportTables) : Extracted tables tables [] where
  persisted _ isTree := absurd isTree List.not_mem_nil
  references _ isTree := absurd isTree List.not_mem_nil
  samePersisted _ _ := rfl
  sameReferences _ _ := rfl

variable {entity : ExportedEntity} {tables : ImportTables}

theorem Unread.mono {trees fewer : List ExportedEntity} (unread : Unread tables trees)
    (within : ∀ entity ∈ fewer, entity ∈ trees) :
    Unread tables fewer :=
  fun entity isTree => unread entity (within entity isTree)

theorem Extracted.unread {before after : ImportTables} {trees others : List ExportedEntity}
    (extracted : Extracted before after trees) (unread : Unread before others)
    (apart : ∀ entity ∈ others, entity.id ∉ trees.map ExportedEntity.id) : Unread after others := by
  intro entity isOther
  rw [extracted.samePersisted _ (apart entity isOther),
    extracted.sameReferences _ (apart entity isOther)]
  exact unread entity isOther

theorem Extracted.append {before middle after : ImportTables}
    {first second : List ExportedEntity} (isFirst : Extracted before middle first)
    (isSecond : Extracted middle after second)
    (apart : ∀ entity ∈ first, entity.id ∉ second.map ExportedEntity.id) :
    Extracted before after (first ++ second) := by
  constructor
  · intro entity isTree
    rcases List.mem_append.mp isTree with inFirst | inSecond
    · rw [isSecond.samePersisted _ (apart entity inFirst)]
      exact isFirst.persisted entity inFirst
    · exact isSecond.persisted entity inSecond
  · intro entity isTree
    rcases List.mem_append.mp isTree with inFirst | inSecond
    · rw [isSecond.sameReferences _ (apart entity inFirst)]
      exact isFirst.references entity inFirst
    · exact isSecond.references entity inSecond
  · intro id isOther
    rw [List.map_append, List.mem_append, not_or] at isOther
    rw [isSecond.samePersisted _ isOther.2, isFirst.samePersisted _ isOther.1]
  · intro id isOther
    rw [List.map_append, List.mem_append, not_or] at isOther
    rw [isSecond.sameReferences _ isOther.2, isFirst.sameReferences _ isOther.1]

theorem getElem?_registerEntityReferences
    (unread : tables.entitiesWithReferenceAttributes[entity.id]? = none) (id : String) :
    (registerEntityReferences tables entity.id
        entity.message.attributes).entitiesWithReferenceAttributes[id]? =
      if entity.id = id then entity.references?
      else tables.entitiesWithReferenceAttributes[id]? := by
  rw [registerEntityReferences, references?]
  by_cases isNone : referencedEntries entity.message.attributes = []
  · simp only [isNone, List.isEmpty_nil, if_true]
    split
    · rename_i isId
      rw [← isId, unread]
    · rfl
  · simp only [List.isEmpty_iff, isNone, if_false]
    rw [ExtTreeMap.getElem?_insert, ExtTreeMap.getD_eq_getD_getElem?, unread]
    simp only [Std.compare_eq_iff_eq, Option.getD_none, List.nil_append]

theorem persistedEntities_registerEntityReferences (tables : ImportTables) (id : String)
    (attributes : List (String × Element)) :
    (registerEntityReferences tables id attributes).persistedEntities =
      tables.persistedEntities := by
  rw [registerEntityReferences]
  split <;> rfl

/-- Reading gives the tables its tree. -/
def ReadsTree (entity : ExportedEntity) : Prop :=
  ∀ tables : ImportTables, (∀ below ∈ entity.subtrees, below.message.id = some below.id) →
    (entity.subtrees.map ExportedEntity.id).Nodup → Unread tables entity.subtrees →
    (extractEntity tables entity).2 = [entity.id] ∧
      Extracted tables (extractEntity tables entity).1 entity.subtrees

theorem extractChildEntities_spec (trees : List ExportedEntity)
    (reads : ∀ tree ∈ trees, ReadsTree tree) (tables : ImportTables)
    (identified : ∀ below ∈ allSubtrees trees, below.message.id = some below.id)
    (distinct : ((allSubtrees trees).map ExportedEntity.id).Nodup)
    (unread : Unread tables (allSubtrees trees)) :
    (extractChildEntities tables trees).2 = trees.map ExportedEntity.id ∧
      Extracted tables (extractChildEntities tables trees).1 (allSubtrees trees) := by
  induction trees generalizing tables with
  | nil =>
    rw [extractChildEntities, allSubtrees]
    exact ⟨rfl, extracted_nil tables⟩
  | cons tree rest ih =>
    rw [allSubtrees] at identified distinct unread ⊢
    rw [List.map_append] at distinct
    obtain ⟨treeDistinct, restDistinct, apart⟩ := List.nodup_append'.mp distinct
    obtain ⟨treeId, treeExtracted⟩ := reads tree List.mem_cons_self tables
      (fun below isBelow => identified below (List.mem_append_left _ isBelow)) treeDistinct
      (unread.mono fun below isBelow => List.mem_append_left _ isBelow)
    have restUnread : Unread (extractEntity tables tree).1 (allSubtrees rest) := by
      apply treeExtracted.unread
      · exact unread.mono fun below isBelow => List.mem_append_right _ isBelow
      · intro below isBelow isTree
        exact apart isTree (List.mem_map_of_mem isBelow)
    obtain ⟨restIds, restExtracted⟩ := ih
      (fun other isOther => reads other (List.mem_cons_of_mem _ isOther)) _
      (fun below isBelow => identified below (List.mem_append_right _ isBelow)) restDistinct
      restUnread
    rw [extractChildEntities]
    constructor
    · rw [treeId, restIds]
      rfl
    · apply treeExtracted.append restExtracted
      intro below isBelow
      exact fun isRest => apart (List.mem_map_of_mem isBelow) isRest

theorem Extracted.enter {tables registered nested : ImportTables}
    (notNested : entity.id ∉ (allSubtrees entity.nested).map ExportedEntity.id)
    (unread : tables.persistedEntities[entity.id]? = none)
    (samePersisted : registered.persistedEntities = tables.persistedEntities)
    (references : ∀ id : String, registered.entitiesWithReferenceAttributes[id]? =
      if entity.id = id then entity.references?
      else tables.entitiesWithReferenceAttributes[id]?)
    (extracted : Extracted registered nested (allSubtrees entity.nested)) :
    Extracted tables
      { nested with
        persistedEntities := nested.persistedEntities.insertIfNew entity.id entity.persisted }
      entity.subtrees := by
  have missing : entity.id ∉ nested.persistedEntities := by
    rw [ExtTreeMap.mem_iff_isSome_getElem?, extracted.samePersisted _ notNested, samePersisted,
      unread]
    exact Bool.false_ne_true
  have entered : ∀ id : String,
      (nested.persistedEntities.insertIfNew entity.id entity.persisted)[id]? =
        if entity.id = id then some entity.persisted else nested.persistedEntities[id]? := by
    intro id
    rw [ExtTreeMap.getElem?_insertIfNew]
    simp only [Std.compare_eq_iff_eq, missing, not_false_eq_true, and_true]
  have different : ∀ below ∈ allSubtrees entity.nested, entity.id ≠ below.id := by
    intro below isBelow same
    exact notNested (same ▸ List.mem_map_of_mem isBelow)
  rw [subtrees_eq]
  constructor
  · intro below isTree
    rw [entered]
    rcases List.mem_cons.mp isTree with isEntity | isBelow
    · rw [isEntity, if_pos rfl]
    · rw [if_neg (different below isBelow)]
      exact extracted.persisted below isBelow
  · intro below isTree
    rcases List.mem_cons.mp isTree with isEntity | isBelow
    · rw [isEntity, extracted.sameReferences _ notNested, references, if_pos rfl]
    · exact extracted.references below isBelow
  · intro id isOther
    rw [List.map_cons, List.mem_cons, not_or] at isOther
    rw [entered, if_neg (Ne.symm isOther.1), extracted.samePersisted _ isOther.2, samePersisted]
  · intro id isOther
    rw [List.map_cons, List.mem_cons, not_or] at isOther
    rw [extracted.sameReferences _ isOther.2, references, if_neg (Ne.symm isOther.1)]

theorem extractEntity_of_id (isId : entity.message.id = some entity.id)
    (childIds : (extractChildEntities (registerEntityReferences tables entity.id
      entity.message.attributes) entity.nested).2 = entity.nested.map ExportedEntity.id) :
    extractEntity tables entity =
      ({ (extractChildEntities (registerEntityReferences tables entity.id
            entity.message.attributes) entity.nested).1 with
          persistedEntities := (extractChildEntities (registerEntityReferences tables entity.id
            entity.message.attributes) entity.nested).1.persistedEntities.insertIfNew entity.id
              entity.persisted }, [entity.id]) := by
  rw [persisted, ← childIds]
  cases entity with
  | mk message contains =>
    change message.id = some _ at isId
    rw [extractEntity, isId]
    rfl

theorem readsTree (entity : ExportedEntity) : ReadsTree entity := by
  induction entity using induct with
  | node message contains ih =>
    intro tables identified distinct unread
    have isId := identified _ (self_mem_subtrees (.mk message contains))
    generalize isEntity : ExportedEntity.mk message contains = entity at *
    have isNested : contains = entity.nested := by
      rw [← isEntity]
      rfl
    rw [isNested] at ih
    rw [subtrees_eq] at identified distinct unread
    rw [List.map_cons, List.nodup_cons] at distinct
    obtain ⟨unreadHere, noReferences⟩ := unread _ List.mem_cons_self
    have references := fun id => getElem?_registerEntityReferences noReferences id
    have samePersisted := persistedEntities_registerEntityReferences tables entity.id
      entity.message.attributes
    obtain ⟨childIds, extracted⟩ := extractChildEntities_spec entity.nested ih
      (registerEntityReferences tables entity.id entity.message.attributes)
      (fun below isBelow => identified below (List.mem_cons_of_mem _ isBelow)) distinct.2 (by
        intro below isBelow
        have different : entity.id ≠ below.id := by
          intro same
          exact distinct.1 (same ▸ List.mem_map_of_mem isBelow)
        rw [samePersisted, references, if_neg different]
        exact unread below (List.mem_cons_of_mem _ isBelow))
    rw [extractEntity_of_id isId childIds]
    refine ⟨rfl, ?_⟩
    exact extracted.enter distinct.1 unreadHere samePersisted references

theorem WellFormed.extracted {dump : List ExportedEntity} (wellFormed : WellFormed dump) :
    Extracted {} (extractChildEntities {} dump).1 (allSubtrees dump) := by
  apply (extractChildEntities_spec dump (fun tree _ => readsTree tree) {} wellFormed.identified
    wellFormed.distinct _).2
  intro entity _
  exact ⟨ExtTreeMap.getElem?_empty, ExtTreeMap.getElem?_empty⟩

end Cyphesis.Tools
