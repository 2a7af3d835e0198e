import Cyphesis.Tools.DumpTree
import Cyphesis.Tools.References

/-!
# The walk of the importer

The importer goes over the tree of the file in preorder.
-/

namespace Cyphesis.Tools

open Cyphesis.Atlas List Option
open ExportedEntity (allSubtrees subtrees_eq mem_allSubtrees self_mem_subtrees
  mem_allSubtrees_of_nested allSubtrees_append)
open Std (ExtTreeMap)

namespace Request

/-- Entity that an operation creates or updates. -/
def restored? : Request → Option String
  | .create id _ _ _ => some id
  | .update id _ => some id
  | _ => none

/-- Entity that an operation updates. -/
def updated? : Request → Option String
  | .update id _ => some id
  | _ => none

/-- The value an operation gives a property. -/
def valueFor? (id name : String) : Request → Option Element
  | .create created _ _ attributes => if created = id then attributes.lookup name else none
  | .update updated attributes => if updated = id then attributes.lookup name else none
  | .resolve resolved _ attributes => if resolved = id then attributes.lookup name else none
  | _ => none

end Request

/-- Names that are no properties. -/
def ownAttributes : List String :=
  ["id", "parent", "contains", "~contains", "velocity", "stamp"]

namespace EntityImporterBase

/-- Created or updated, in order. -/
def restoredIds (importer : EntityImporterBase) : List String :=
  importer.sent.filterMap Request.restored?

def updatedIds (importer : EntityImporterBase) : List String :=
  importer.sent.filterMap Request.updated?

/-- Identifier of an entity on the server. -/
def serverId? (importer : EntityImporterBase) (id : String) : Option String :=
  (importer.created? id).or (if id ∈ importer.updatedIds then some id else none)

/-- Value that was last sent for a property. -/
def lastSent (importer : EntityImporterBase) (id name : String) : Option Element :=
  (importer.sent.filterMap (Request.valueFor? id name)).getLast?

/-- The value was sent, and the references in it were created before. -/
def Settled (importer : EntityImporterBase) (id name : String) (value : Element) : Prop :=
  importer.lastSent id name = some (resolveEntityReferences importer.created? value) ∧
    ∀ reference ∈ extractEntityReferences value, (importer.created? reference).isSome = true

/-- The property is to be sent when the walk is over. -/
def Owed (importer : EntityImporterBase) (id name : String) : Prop :=
  ∃ entries, importer.entitiesWithReferenceAttributes[id]? = some entries ∧
    name ∈ entries.map ReferencedEntry.propertyName

/-- The tables and what was sent so far. -/
structure Consistent (dump : List ExportedEntity) (importer : EntityImporterBase) : Prop where
  intact : importer.faulted = false
  persisted : ∀ entity ∈ allSubtrees dump,
    importer.persistedEntities[entity.id]? = some entity.persisted
  noOther : ∀ id : String, id ∉ (allSubtrees dump).map ExportedEntity.id →
    importer.persistedEntities[id]? = none
  untouched : ∀ entity ∈ allSubtrees dump, entity.id ∉ importer.restoredIds →
    importer.entitiesWithReferenceAttributes[entity.id]? = entity.references?
  known : ∀ id : String, id ∈ importer.entitiesWithReferenceAttributes →
    id ∈ (allSubtrees dump).map ExportedEntity.id
  created : ∀ id : String, (importer.created? id).isSome = true →
    id ∈ importer.restoredIds ∧ id ∉ importer.updatedIds
  plain : ∀ id ∈ importer.updatedIds, importer.entitiesWithReferenceAttributes[id]? = none
  values : ∀ entity ∈ allSubtrees dump, entity.id ∈ importer.restoredIds →
    ∀ property ∈ entity.message.attributes, property.1 ∉ ownAttributes →
      importer.Settled entity.id property.1 property.2 ∨ importer.Owed entity.id property.1
  places : ∀ id loc parent attributes, Request.create id loc parent attributes ∈ importer.sent →
    loc ≠ "" ∧ ∃ entity ∈ allSubtrees dump, id ∈ entity.nested.map ExportedEntity.id ∧
      importer.serverId? entity.id = some loc
  parentFirst : ∀ before id after, importer.restoredIds = before ++ id :: after →
    id ∈ dump.map ExportedEntity.id ∨
      ∃ entity ∈ allSubtrees dump, entity.id ∈ before ∧
        id ∈ entity.nested.map ExportedEntity.id

theorem Consistent.updated_restored {dump : List ExportedEntity} {importer : EntityImporterBase}
    (_ : Consistent dump importer) {id : String} (isUpdated : id ∈ importer.updatedIds) :
    id ∈ importer.restoredIds := by
  rw [updatedIds, mem_filterMap] at isUpdated
  obtain ⟨request, isSent, isUpdate⟩ := isUpdated
  rw [restoredIds, mem_filterMap]
  refine ⟨request, isSent, ?_⟩
  cases request with
  | update updated attributes => exact isUpdate
  | look => contradiction
  | get id => contradiction
  | create id loc parent attributes => contradiction
  | resolve id createdId attributes => contradiction

/-- Entries above, with what is left. -/
inductive Way (dump : List ExportedEntity) (serverId? : String → Option String) :
    ExportedEntity → List StackEntry → List ExportedEntity → Prop
  | top {root : ExportedEntity} (isTop : root ∈ dump) : Way dump serverId? root [] []
  | under {child parent : ExportedEntity} {entry : StackEntry} {left : List String}
      {trees todo : List ExportedEntity} {above : List StackEntry}
      (isParent : parent ∈ allSubtrees dump) (isChild : child ∈ parent.nested)
      (areChildren : ∀ tree ∈ trees, tree ∈ parent.nested)
      (isEntry : entry.obj = parent.persisted) (isLeft : entry.childrenLeft = some left)
      (areLeft : left.filter (· ∈ (allSubtrees dump).map ExportedEntity.id) =
        trees.map ExportedEntity.id)
      (isRestored : serverId? parent.id = some entry.restoredId)
      (isNamed : entry.restoredId ≠ "") (way : Way dump serverId? parent above todo) :
      Way dump serverId? child (entry :: above) (trees ++ todo)

theorem Way.mono {dump : List ExportedEntity} {before after : String → Option String}
    {tree : ExportedEntity} {above : List StackEntry} {todo : List ExportedEntity}
    (grows : ∀ id serverId, before id = some serverId → after id = some serverId)
    (way : Way dump before tree above todo) : Way dump after tree above todo := by
  induction way with
  | top isTop => exact .top isTop
  | under isParent isChild areChildren isEntry isLeft areLeft isRestored isNamed _ ih =>
    exact .under isParent isChild areChildren isEntry isLeft areLeft
      (grows _ _ isRestored) isNamed ih

/-- Restored and left entities are the tree. -/
def Covers (dump : List ExportedEntity) (importer : EntityImporterBase)
    (left : List ExportedEntity) : Prop :=
  ∃ root ∈ dump, root.subtrees.map ExportedEntity.id =
    importer.restoredIds ++ (allSubtrees left).map ExportedEntity.id

section Sending

variable {dump : List ExportedEntity} {importer : EntityImporterBase} {request : Request}

theorem restored?_of_updated? {id : String} (isUpdate : request.updated? = some id) :
    request.restored? = some id := by
  cases request with
  | update updated attributes => exact isUpdate
  | look => contradiction
  | get id => contradiction
  | create id loc parent attributes => contradiction
  | resolve id createdId attributes => contradiction

/-- The importer after a request, with other references left for later. -/
def sending (importer : EntityImporterBase) (request : Request)
    (references : ExtTreeMap String (List ReferencedEntry) compare) : EntityImporterBase :=
  { importer with
    sent := importer.sent ++ [request], entitiesWithReferenceAttributes := references }

variable {references : ExtTreeMap String (List ReferencedEntry) compare}

theorem filterMap_sent_append {β : Type} (project : Request → Option β) (sent : List Request) :
    (sent ++ [request]).filterMap project = sent.filterMap project ++ (project request).toList := by
  rw [filterMap_append]
  cases isSome : project request with
  | none => simp [isSome]
  | some value => simp [isSome]

theorem restoredIds_sending :
    (importer.sending request references).restoredIds =
      importer.restoredIds ++ request.restored?.toList :=
  filterMap_sent_append Request.restored? importer.sent

theorem updatedIds_sending :
    (importer.sending request references).updatedIds =
      importer.updatedIds ++ request.updated?.toList :=
  filterMap_sent_append Request.updated? importer.sent

theorem lastSent_sending (id name : String) :
    (importer.sending request references).lastSent id name =
      (request.valueFor? id name).or (importer.lastSent id name) := by
  rw [lastSent, sending, filterMap_sent_append, lastSent]
  cases request.valueFor? id name with
  | none => simp
  | some value => simp

theorem mem_updatedIds_sending {id : String} :
    id ∈ (importer.sending request references).updatedIds ↔
      id ∈ importer.updatedIds ∨ request.updated? = some id := by
  rw [updatedIds_sending, mem_append, mem_toList]

theorem serverId?_sending {id serverId : String}
    (isServerId : importer.serverId? id = some serverId) :
    (importer.sending request references).serverId? id = some serverId := by
  rw [serverId?] at isServerId ⊢
  change (importer.created? id).or _ = some serverId
  rw [or_eq_some_iff] at isServerId ⊢
  rcases isServerId with isCreated | ⟨notCreated, isUpdated⟩
  · exact .inl isCreated
  · right
    refine ⟨notCreated, ?_⟩
    split at isUpdated
    · rename_i isMember
      rw [if_pos (mem_updatedIds_sending.mpr (.inl isMember))]
      exact isUpdated
    · contradiction

section

variable (consistent : Consistent dump importer)

include consistent

/-- The tables agree with what is restored in order. -/
theorem Consistent.sending
    (others : ∀ id name, request.restored? ≠ some id → request.valueFor? id name = none)
    (sameReferences : ∀ id : String, request.restored? ≠ some id →
      references[id]? = importer.entitiesWithReferenceAttributes[id]?)
    (fresh : ∀ id, request.restored? = some id → id ∉ importer.restoredIds)
    (isKnown : ∀ id, request.restored? = some id → id ∈ (allSubtrees dump).map ExportedEntity.id)
    (plain : ∀ id : String, request.updated? = some id → references[id]? = none)
    (values : ∀ entity ∈ allSubtrees dump, request.restored? = some entity.id →
      ∀ property ∈ entity.message.attributes, property.1 ∉ ownAttributes →
      (request.valueFor? entity.id property.1 =
      some (resolveEntityReferences importer.created? property.2) ∧
      ∀ reference ∈ extractEntityReferences property.2,
      (importer.created? reference).isSome = true) ∨
      ∃ entries, references[entity.id]? = some entries ∧
      property.1 ∈ entries.map ReferencedEntry.propertyName)
    (place : ∀ id loc parent attributes, request = .create id loc parent attributes →
      loc ≠ "" ∧ ∃ entity ∈ allSubtrees dump, id ∈ entity.nested.map ExportedEntity.id ∧
      importer.serverId? entity.id = some loc)
    (after : ∀ id, request.restored? = some id → id ∈ dump.map ExportedEntity.id ∨
      ∃ entity ∈ allSubtrees dump, entity.id ∈ importer.restoredIds ∧
      id ∈ entity.nested.map ExportedEntity.id) :
    Consistent dump (importer.sending request references) := by
  have mem_restored : ∀ id, id ∈ (importer.sending request references).restoredIds ↔
      id ∈ importer.restoredIds ∨ request.restored? = some id := by
    intro id
    rw [restoredIds_sending, mem_append, mem_toList]
  constructor
  · exact consistent.intact
  · exact consistent.persisted
  · exact consistent.noOther
  · intro entity isEntity notRestored
    rw [mem_restored, not_or] at notRestored
    exact (sameReferences _ notRestored.2).trans
      (consistent.untouched entity isEntity notRestored.1)
  · intro id isReference
    by_cases isTarget : request.restored? = some id
    · exact isKnown id isTarget
    · apply consistent.known
      rw [ExtTreeMap.mem_iff_isSome_getElem?] at isReference ⊢
      rw [← sameReferences id isTarget]
      exact isReference
  · intro id isCreated
    obtain ⟨isRestored, notUpdated⟩ := consistent.created id isCreated
    refine ⟨(mem_restored id).mpr (.inl isRestored), ?_⟩
    rw [mem_updatedIds_sending, not_or]
    exact ⟨notUpdated, fun isUpdate => fresh id (restored?_of_updated? isUpdate) isRestored⟩
  · intro id isUpdated
    rcases mem_updatedIds_sending.mp isUpdated with before | isUpdate
    · change references[id]? = none
      by_cases isTarget : request.restored? = some id
      · exact absurd (consistent.updated_restored before) (fresh id isTarget)
      · rw [sameReferences id isTarget]
        exact consistent.plain id before
    · exact plain id isUpdate
  · intro entity isEntity isRestored property isProperty named
    by_cases isTarget : request.restored? = some entity.id
    · rcases values entity isEntity isTarget property isProperty named with isSent | isOwed
      · left
        refine ⟨?_, isSent.2⟩
        rw [lastSent_sending, isSent.1]
        rfl
      · exact .inr isOwed
    · have isBefore := ((mem_restored _).mp isRestored).resolve_right isTarget
      rcases consistent.values entity isEntity isBefore property isProperty named with
        isSettled | isOwed
      · left
        refine ⟨?_, isSettled.2⟩
        rw [lastSent_sending, others _ _ isTarget]
        exact isSettled.1
      · right
        obtain ⟨entries, isEntries, isName⟩ := isOwed
        exact ⟨entries, (sameReferences _ isTarget).trans isEntries, isName⟩
  · intro id loc parent attributes isSent
    have isPlace : loc ≠ "" ∧ ∃ entity ∈ allSubtrees dump,
        id ∈ entity.nested.map ExportedEntity.id ∧ importer.serverId? entity.id = some loc := by
      rcases List.mem_append.mp isSent with before | isNew
      · exact consistent.places id loc parent attributes before
      · exact place id loc parent attributes (List.mem_singleton.mp isNew).symm
    obtain ⟨named, entity, isEntity, isNested, isServerId⟩ := isPlace
    exact ⟨named, entity, isEntity, isNested, serverId?_sending isServerId⟩
  · intro before id later isRestored
    rw [restoredIds_sending] at isRestored
    cases isTarget : request.restored? with
    | none =>
      rw [isTarget, toList_none, append_nil] at isRestored
      exact consistent.parentFirst before id later isRestored
    | some target =>
      rw [isTarget, toList_some] at isRestored
      rcases eq_nil_or_concat later with isLast | ⟨earlier, last, isLater⟩
      · rw [isLast, append_singleton_inj] at isRestored
        rw [← isRestored.1, ← isRestored.2]
        exact after target isTarget
      · rw [isLater, concat_eq_append, ← cons_append, ← append_assoc,
          append_singleton_inj] at isRestored
        exact consistent.parentFirst before id earlier isRestored.1

theorem Consistent.of_same {other : EntityImporterBase}
    (sameFault : other.faulted = importer.faulted)
    (sameTables : other.toImportTables = importer.toImportTables)
    (sameMap : other.entityIdMap = importer.entityIdMap) (sameSent : other.sent = importer.sent) :
    Consistent dump other := by
  cases importer
  cases other
  dsimp only at sameFault sameTables sameMap sameSent
  subst sameFault sameTables sameMap sameSent
  exact ⟨consistent.intact, consistent.persisted, consistent.noOther, consistent.untouched,
    consistent.known, consistent.created, consistent.plain, consistent.values,
    consistent.places, consistent.parentFirst⟩

theorem Consistent.restored_of_serverId? {id serverId : String}
    (isServerId : importer.serverId? id = some serverId) :
    id ∈ importer.restoredIds := by
  rw [serverId?, or_eq_some_iff] at isServerId
  rcases isServerId with isCreated | ⟨_, isUpdated⟩
  · exact (consistent.created id (by rw [isCreated]; rfl)).1
  · split at isUpdated
    · rename_i isMember
      exact consistent.updated_restored isMember
    · contradiction

theorem Consistent.sendPlain (restoresNothing : request.restored? = none)
    (noValue : ∀ id name, request.valueFor? id name = none) :
    Consistent dump (importer.sending request importer.entitiesWithReferenceAttributes) := by
  have noUpdate : request.updated? = none := by
    cases isUpdate : request.updated? with
    | none => rfl
    | some id =>
      rw [restored?_of_updated? isUpdate] at restoresNothing
      contradiction
  apply consistent.sending
  · exact fun id name _ => noValue id name
  · exact fun _ _ => rfl
  · intro id isRestored
    rw [restoresNothing] at isRestored
    contradiction
  · intro id isRestored
    rw [restoresNothing] at isRestored
    contradiction
  · intro id isUpdate
    rw [noUpdate] at isUpdate
    contradiction
  · intro entity _ isRestored
    rw [restoresNothing] at isRestored
    contradiction
  · intro id loc parent attributes isCreate
    rw [isCreate] at restoresNothing
    contradiction
  · intro id isRestored
    rw [restoresNothing] at isRestored
    contradiction

end

variable (wellFormed : WellFormed dump)

include wellFormed

/-- The Set for an entity without references. -/
theorem Consistent.sendUpdate (consistent : Consistent dump importer) {tree : ExportedEntity}
    (isTree : tree ∈ allSubtrees dump) (fresh : tree.id ∉ importer.restoredIds)
    (noReferences : importer.entitiesWithReferenceAttributes[tree.id]? = none)
    (after : tree.id ∈ dump.map ExportedEntity.id ∨
      ∃ entity ∈ allSubtrees dump, entity.id ∈ importer.restoredIds ∧
        tree.id ∈ entity.nested.map ExportedEntity.id) :
    Consistent dump (importer.sending (.update tree.id (updateAttributes tree.persisted))
      importer.entitiesWithReferenceAttributes) := by
  have isTarget : ∀ id, (Request.update tree.id (updateAttributes tree.persisted)).restored? =
      some id → tree.id = id := fun id => Option.some.inj
  apply consistent.sending
  · intro id name notTarget
    rw [Request.valueFor?, if_neg]
    rintro rfl
    exact notTarget rfl
  · exact fun _ _ => rfl
  · intro id isRestored
    rw [← isTarget id isRestored]
    exact fresh
  · intro id isRestored
    rw [← isTarget id isRestored]
    exact List.mem_map_of_mem isTree
  · intro id isUpdate
    rw [← Option.some.inj isUpdate]
    exact noReferences
  · intro entity isEntity isRestored property isProperty named
    left
    have same : tree = entity :=
      inj_on_of_nodup_map wellFormed.distinct isTree isEntity (isTarget _ isRestored)
    subst same
    have plain : referencedEntries tree.message.attributes = [] := by
      rw [consistent.untouched tree isTree fresh, ExportedEntity.references?] at noReferences
      by_contra hasReferences
      rw [if_neg hasReferences] at noReferences
      contradiction
    have noneHere : extractEntityReferences property.2 = [] := by
      by_contra hasReferences
      have isEntry : (⟨property.1, extractEntityReferences property.2⟩ : ReferencedEntry) ∈
          referencedEntries tree.message.attributes :=
        mem_referencedEntries.mpr
          ⟨property.2, isProperty, by simp_all [ownAttributes], rfl, hasReferences⟩
      rw [plain] at isEntry
      exact absurd isEntry not_mem_nil
    rw [Request.valueFor?, if_pos rfl, resolve_of_no_references noneHere, noneHere]
    refine ⟨lookup_updateAttributes (wellFormed.keys tree isTree) isProperty ?_, ?_⟩
    · simp_all [ownAttributes]
    · exact fun reference isReference => absurd isReference not_mem_nil
  · intro id loc parent attributes isCreate
    contradiction
  · intro id isRestored
    rw [← isTarget id isRestored]
    exact after

/-- The Create operation, in what was restored. -/
theorem Consistent.sendCreate (consistent : Consistent dump importer)
    {tree parent : ExportedEntity} {loc : String}
    (isTree : tree ∈ allSubtrees dump) (fresh : tree.id ∉ importer.restoredIds)
    (isParent : parent ∈ allSubtrees dump) (isNested : tree ∈ parent.nested)
    (isServerId : importer.serverId? parent.id = some loc) (named : loc ≠ "") :
    Consistent dump (importer.sending
      (.create tree.id loc tree.persisted.parent (importer.createAttributes tree.persisted))
      (importer.unresolvedReferences tree.id)) := by
  have isTarget : ∀ id, (Request.create tree.id loc tree.persisted.parent
      (importer.createAttributes tree.persisted)).restored? = some id → tree.id = id :=
    fun id => Option.some.inj
  have untouched := consistent.untouched tree isTree fresh
  apply consistent.sending
  · intro id name notTarget
    rw [Request.valueFor?, if_neg]
    rintro rfl
    exact notTarget rfl
  · intro id notTarget
    apply getElem?_unresolvedReferences_of_ne
    rintro rfl
    exact notTarget rfl
  · intro id isRestored
    rw [← isTarget id isRestored]
    exact fresh
  · intro id isRestored
    rw [← isTarget id isRestored]
    exact List.mem_map_of_mem isTree
  · intro id isUpdate
    contradiction
  · intro entity isEntity isRestored property isProperty notOwn
    have same : tree = entity :=
      inj_on_of_nodup_map wellFormed.distinct isTree isEntity (isTarget _ isRestored)
    subst same
    have references : importer.entitiesWithReferenceAttributes.getD tree.persisted.id [] =
        referencedEntries tree.persisted.attributes := by
      change importer.entitiesWithReferenceAttributes.getD tree.id [] = _
      rw [ExtTreeMap.getD_eq_getD_getElem?, untouched, ExportedEntity.references?]
      split
      · rename_i isNone
        exact isNone.symm
      · rfl
    have propertyName : property.1 ∉ ["id", "parent", "contains", "~contains"] := by
      simp_all [ownAttributes]
    rw [Request.valueFor?, if_pos rfl, lookup_createAttributes (wellFormed.keys tree isTree)
      isProperty (by simp_all [ownAttributes]) propertyName references]
    by_cases noReferences : extractEntityReferences property.2 = []
    · left
      rw [if_pos noReferences, resolve_of_no_references noReferences, noReferences]
      exact ⟨rfl, fun reference isReference => absurd isReference not_mem_nil⟩
    · rw [if_neg noReferences]
      cases isResolved : importer.isResolved ⟨property.1, extractEntityReferences property.2⟩ with
      | true =>
        left
        refine ⟨rfl, ?_⟩
        simpa [EntityImporterBase.isResolved] using isResolved
      | false =>
        right
        have isEntry : (⟨property.1, extractEntityReferences property.2⟩ : ReferencedEntry) ∈
            referencedEntries tree.message.attributes :=
          mem_referencedEntries.mpr ⟨property.2, isProperty, propertyName, rfl, noReferences⟩
        have isEntries : importer.entitiesWithReferenceAttributes[tree.id]? =
            some (referencedEntries tree.message.attributes) := by
          rw [untouched, ExportedEntity.references?, if_neg (ne_nil_of_mem isEntry)]
        obtain ⟨left, isLeft, inLeft⟩ := mem_unresolvedReferences isEntries isEntry isResolved
        exact ⟨left, isLeft, List.mem_map_of_mem inLeft⟩
  · intro id place type attributes isCreate
    injection isCreate with isId isLoc
    rw [← isId, ← isLoc]
    exact ⟨named, parent, isParent, List.mem_map_of_mem isNested, isServerId⟩
  · intro id isRestored
    rw [← isTarget id isRestored]
    exact .inr ⟨parent, isParent, consistent.restored_of_serverId? isServerId,
      List.mem_map_of_mem isNested⟩

omit wellFormed

/-- After the answer to a Create operation. -/
def recording (importer : EntityImporterBase) (id createdId : String) : EntityImporterBase :=
  { importer with entityIdMap := (id, createdId) :: importer.entityIdMap }

theorem created?_recording (id createdId other : String) :
    (importer.recording id createdId).created? other =
      if other = id then some createdId else importer.created? other := by
  rw [recording, created?, lookup_cons, created?]
  by_cases isId : other = id
  · rw [if_pos isId, beq_iff_eq.mpr isId]
  · rw [if_neg isId, beq_eq_false_iff_ne.mpr isId]

theorem serverId?_recording {id createdId other serverId : String}
    (uncreated : importer.created? id = none) (notUpdated : id ∉ importer.updatedIds)
    (isServerId : importer.serverId? other = some serverId) :
    (importer.recording id createdId).serverId? other = some serverId := by
  have different : other ≠ id := by
    rintro rfl
    rw [serverId?, uncreated, if_neg notUpdated] at isServerId
    contradiction
  rw [serverId?, created?_recording, if_neg different]
  exact isServerId

theorem Consistent.recording (consistent : Consistent dump importer) {id createdId : String}
    (isRestored : id ∈ importer.restoredIds) (notUpdated : id ∉ importer.updatedIds)
    (uncreated : importer.created? id = none) :
    Consistent dump (importer.recording id createdId) := by
  have stays : ∀ other, (importer.created? other).isSome = true → other ≠ id := by
    rintro other isCreated rfl
    rw [uncreated] at isCreated
    contradiction
  refine ⟨consistent.intact, consistent.persisted, consistent.noOther, consistent.untouched,
    consistent.known, ?_, consistent.plain, ?_, ?_, consistent.parentFirst⟩
  · intro other isCreated
    rw [created?_recording] at isCreated
    split at isCreated
    · rename_i isId
      rw [isId]
      exact ⟨isRestored, notUpdated⟩
    · exact consistent.created other isCreated
  · intro entity isEntity entityRestored property isProperty named
    rcases consistent.values entity isEntity entityRestored property isProperty named with
      ⟨isSent, areCreated⟩ | isOwed
    · left
      have same : ∀ reference ∈ extractEntityReferences property.2,
          (importer.recording id createdId).created? reference = importer.created? reference := by
        intro reference isReference
        rw [created?_recording, if_neg (stays reference (areCreated reference isReference))]
      refine ⟨?_, ?_⟩
      · calc
          _ = some (resolveEntityReferences importer.created? property.2) := isSent
          _ = _ := by
            congr 1
            apply resolve_congr
            intro reference isReference
            rw [same reference isReference]
      · intro reference isReference
        rw [same reference isReference]
        exact areCreated reference isReference
    · exact .inr isOwed
  · intro created loc parent attributes isSent
    obtain ⟨named, entity, isEntity, isNested, isServerId⟩ :=
      consistent.places created loc parent attributes isSent
    exact ⟨named, entity, isEntity, isNested, serverId?_recording uncreated notUpdated isServerId⟩

end Sending

/-- The last message has the references. -/
def Resolves (dump : List ExportedEntity) (importer : EntityImporterBase) : Prop :=
  ∀ entity ∈ allSubtrees dump, (importer.serverId? entity.id).isSome = true →
    ∀ property ∈ entity.message.attributes, property.1 ∉ ownAttributes →
      importer.lastSent entity.id property.1 =
        some (resolveEntityReferences importer.serverId? property.2)

/-- The walk is at a tree, on top of the stack. -/
structure At (dump : List ExportedEntity) (importer : EntityImporterBase)
    (tree : ExportedEntity) (current : StackEntry) (above : List StackEntry)
    (todo : List ExportedEntity) : Prop where
  isTree : tree ∈ allSubtrees dump
  stack : importer.treeStack = current :: above
  obj : current.obj = tree.persisted
  way : Way dump importer.serverId? tree above todo

/-- Only the walk is awaited. -/
structure Under (importer : EntityImporterBase) : Prop where
  noSets : importer.awaitedSets = 0
  noneInTransit : importer.setOpsInTransit = 0
  notYet : importer.completions = 0

/-- Where the import is. -/
inductive Phase (dump : List ExportedEntity) (importer : EntityImporterBase) : Prop
  | starting (isState : importer.state = .walkStart) (noStack : importer.treeStack = [])
      (nothing : importer.restoredIds = []) (awaits : importer.awaited.isSome = true)
      (underway : importer.Under)
  | walking {tree : ExportedEntity} {current : StackEntry} {above : List StackEntry}
      {todo : List ExportedEntity} (isState : importer.state = .walking)
      (awaits : importer.awaited.isSome = true) (underway : importer.Under)
      (here : At dump importer tree current above todo)
      (covers : Covers dump importer (tree :: todo))
  | creating {tree : ExportedEntity} {current : StackEntry} {above : List StackEntry}
      {todo : List ExportedEntity} {refno : Nat} (isState : importer.state = .creating)
      (awaits : importer.awaited = some refno)
      (mapped : importer.createEntityMapping.lookup refno = some tree.id)
      (isRestored : tree.id ∈ importer.restoredIds) (notUpdated : tree.id ∉ importer.updatedIds)
      (uncreated : importer.created? tree.id = none) (underway : importer.Under)
      (here : At dump importer tree current above todo)
      (covers : Covers dump importer (tree.nested ++ todo))
  | updating {tree : ExportedEntity} {current : StackEntry} {above : List StackEntry}
      {todo : List ExportedEntity} (isState : importer.state = .updating)
      (awaits : importer.awaited.isSome = true)
      (isServerId : importer.serverId? tree.id = some current.restoredId)
      (named : current.restoredId ≠ "") (underway : importer.Under)
      (here : At dump importer tree current above todo)
      (covers : Covers dump importer (tree.nested ++ todo))
  | resolving (isState : importer.state = .refResolving) (awaits : importer.awaited = none)
      (counted : importer.setOpsInTransit = importer.awaitedSets)
      (progress : (importer.completions = 0 ∧ importer.awaitedSets ≠ 0) ∨
        (importer.completions = 1 ∧ importer.awaitedSets = 0))
      (covers : Covers dump importer []) (resolves : Resolves dump importer)

/-- Invariant of the import. -/
structure Kept (dump : List ExportedEntity) (importer : EntityImporterBase) : Prop where
  consistent : Consistent dump importer
  phase : Phase dump importer

end EntityImporterBase

end Cyphesis.Tools
