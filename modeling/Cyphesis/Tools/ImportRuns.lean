import Cyphesis.Tools.ImportWalk

/-!
# Runs of an import

As long as every answer is one that the state of the importer is made for, the import ends with all
references resolved.
-/

namespace Cyphesis.Tools

open Cyphesis.Atlas Cyphesis.Foundation List Option Std.ExtTreeMap
open ExportedEntity (allSubtrees subtrees_eq mem_allSubtrees self_mem_subtrees
  mem_allSubtrees_of_nested allSubtrees_append)
open Std (ExtTreeMap)

namespace EntityImporterBase

variable {dump : List ExportedEntity} {importer : EntityImporterBase}

theorem nodup_subtrees (wellFormed : WellFormed dump) {root : ExportedEntity}
    (isRoot : root ∈ dump) : (root.subtrees.map ExportedEntity.id).Nodup := by
  obtain ⟨before, after, rfl⟩ := append_of_mem isRoot
  have distinct := wellFormed.distinct
  rw [allSubtrees_append, allSubtrees, map_append, map_append] at distinct
  exact (nodup_append'.mp (nodup_append'.mp distinct).2.1).1

theorem Covers.fresh (wellFormed : WellFormed dump) {tree : ExportedEntity}
    {todo : List ExportedEntity} (covers : Covers dump importer (tree :: todo)) :
    tree.id ∉ importer.restoredIds := by
  obtain ⟨root, isRoot, isCovered⟩ := covers
  have nodup := nodup_subtrees wellFormed isRoot
  rw [isCovered] at nodup
  intro isRestored
  refine (nodup_append'.mp nodup).2.2 isRestored ?_
  rw [allSubtrees, map_append, mem_append]
  exact .inl (List.mem_map_of_mem (self_mem_subtrees tree))

variable {id : String} {left : List String} {request : Request} {next : EntityImporterBase}
   {entity : ExportedEntity}

section

variable {todo : List ExportedEntity}

variable {tree : ExportedEntity}

theorem Covers.restore
    (covers : Covers dump importer (tree :: todo))
    (isNext : next.restoredIds = importer.restoredIds ++ [tree.id]) :
    Covers dump next (tree.nested ++ todo) := by
  obtain ⟨root, isRoot, isCovered⟩ := covers
  refine ⟨root, isRoot, ?_⟩
  rw [isCovered, isNext, allSubtrees, subtrees_eq, allSubtrees_append]
  simp

theorem Covers.of_same (covers : Covers dump importer todo)
    (same : next.restoredIds = importer.restoredIds) :
    Covers dump next todo := by
  obtain ⟨root, isRoot, isCovered⟩ := covers
  exact ⟨root, isRoot, by rw [isCovered, same]⟩

theorem kept_getEntity (consistent : Consistent dump importer) (underway : importer.Under)
    (isTree : tree ∈ allSubtrees dump)
    (way : Way dump importer.serverId? tree importer.treeStack todo)
    (covers : Covers dump importer (tree :: todo)) :
    ∃ next, importer.getEntity tree.id = some next ∧ Kept dump next := by
  have sent : Consistent dump
      (importer.sending (.get tree.id) importer.entitiesWithReferenceAttributes) :=
    consistent.sendPlain rfl fun _ _ => rfl
  have grows : ∀ id serverId, importer.serverId? id = some serverId → (importer.sending
      (.get tree.id) importer.entitiesWithReferenceAttributes).serverId? id = some serverId :=
    fun id serverId => serverId?_sending
  have restored : (importer.sending (.get tree.id)
      importer.entitiesWithReferenceAttributes).restoredIds = importer.restoredIds :=
    restoredIds_sending.trans (append_nil _)
  rw [getEntity, consistent.persisted tree isTree]
  refine ⟨_, rfl, sent.of_same rfl rfl rfl rfl, ?_⟩
  exact .walking rfl rfl ⟨underway.noSets, underway.noneInTransit, underway.notYet⟩
    ⟨isTree, rfl, rfl, way.mono grows⟩ (covers.of_same restored)

end

theorem createEntity_of_stack {obj : PersistedEntity} {current entry : StackEntry}
    {above : List StackEntry} (isStack : importer.treeStack = current :: entry :: above) :
    importer.createEntity obj =
      sendOperation
        { importer with
          state := .creating
          entitiesWithReferenceAttributes := importer.unresolvedReferences obj.id
          createEntityMapping := (importer.serialno + 1, obj.id) :: importer.createEntityMapping }
        (.create obj.id entry.restoredId obj.parent (importer.createAttributes obj)) := by
  rw [createEntity, isStack]

section

variable (wellFormed : WellFormed dump) (consistent : Consistent dump importer)
  (underway : importer.Under) {tree : ExportedEntity} {todo : List ExportedEntity}

include wellFormed consistent underway

theorem kept_createEntity {current : StackEntry}
    {above : List StackEntry}
    (here : At dump importer tree current above todo) (notTop : above ≠ [])
    (covers : Covers dump importer (tree :: todo)) :
    Kept dump (importer.createEntity tree.persisted) := by
  have fresh := covers.fresh wellFormed
  obtain ⟨isTree, isStack, isObj, way⟩ := here
  cases way with
  | top isTop => exact absurd rfl notTop
  | @under _ parent entry left trees todo rest isParent isChild areChildren isEntry isLeft areLeft
      isRestored isNamed wayUp =>
      rw [createEntity_of_stack isStack]
      generalize isRequest : Request.create tree.persisted.id entry.restoredId
        tree.persisted.parent (importer.createAttributes tree.persisted) = request
      have isTarget : request.restored? = some tree.id := by
        rw [← isRequest]
        rfl
      have noUpdate : request.updated? = none := by
        rw [← isRequest]
        rfl
      have sent : Consistent dump
          (importer.sending request (importer.unresolvedReferences tree.id)) := by
        rw [← isRequest]
        exact consistent.sendCreate wellFormed isTree fresh isParent isChild isRestored isNamed
      have grows : ∀ id serverId, importer.serverId? id = some serverId → (importer.sending
          request (importer.unresolvedReferences tree.id)).serverId? id = some serverId :=
        fun id serverId => serverId?_sending
      have restored : (importer.sending request
          (importer.unresolvedReferences tree.id)).restoredIds =
            importer.restoredIds ++ [tree.id] := by
        rw [restoredIds_sending, isTarget, toList_some]
      have updated : (importer.sending request
          (importer.unresolvedReferences tree.id)).updatedIds = importer.updatedIds := by
        rw [updatedIds_sending, noUpdate, toList_none, append_nil]
      refine ⟨sent.of_same rfl rfl rfl rfl, ?_⟩
      refine @Phase.creating _ _ tree current (entry :: rest) (trees ++ todo)
        (importer.serialno + 1) rfl rfl lookup_cons_self ?_ ?_ ?_
        ⟨underway.noSets, underway.noneInTransit, underway.notYet⟩ ⟨isTree, isStack, isObj, ?_⟩
        (covers.restore restored)
      · exact restored ▸ mem_append_right _ (mem_singleton_self tree.id)
      · exact updated ▸ fun isUpdated => fresh (consistent.updated_restored isUpdated)
      · by_contra isCreated
        exact fresh (consistent.created tree.id (Option.isSome_iff_ne_none.mpr isCreated)).1
      · exact Way.mono grows (.under isParent isChild areChildren isEntry isLeft areLeft isRestored
          isNamed wayUp)

theorem kept_getOrCreateEntity (isTree : tree ∈ allSubtrees dump)
    (way : Way dump importer.serverId? tree importer.treeStack todo)
    (notTop : importer.treeStack ≠ []) (covers : Covers dump importer (tree :: todo)) :
    ∃ next, importer.getOrCreateEntity tree.id = some next ∧ Kept dump next := by
  rw [getOrCreateEntity]
  split
  · rw [consistent.persisted tree isTree]
    have pushed : Consistent dump
        { importer with
          state := .walking, treeStack := { obj := tree.persisted } :: importer.treeStack } :=
      consistent.of_same rfl rfl rfl rfl
    exact ⟨_, rfl, kept_createEntity wellFormed pushed
      ⟨underway.noSets, underway.noneInTransit, underway.notYet⟩ ⟨isTree, rfl, rfl, way⟩ notTop
      (covers.of_same rfl)⟩
  · exact kept_getEntity consistent underway isTree way covers

end

theorem getOrCreateEntity_of_unknown (unknown : importer.persistedEntities[id]? = none) :
    importer.getOrCreateEntity id = none := by
  rw [getOrCreateEntity, getEntity]
  split
  · rw [unknown]
  · rw [unknown]

theorem walkChildren_of_unknown {entry : StackEntry} {above : List StackEntry}
    (unknown : importer.persistedEntities[id]? = none) :
    importer.walkChildren entry above (id :: left) = importer.walkChildren entry above left := by
  have notFound : getOrCreateEntity
      { importer with treeStack := { entry with childrenLeft := some left } :: above } id = none :=
    getOrCreateEntity_of_unknown unknown
  rw [walkChildren, notFound]

section

variable (consistent : Consistent dump importer) (entry : StackEntry) (above : List StackEntry)

include consistent

theorem walkChildren_cons {tree : ExportedEntity} {trees : List ExportedEntity}
    (areLeft : left.filter (· ∈ (allSubtrees dump).map ExportedEntity.id) =
      (tree :: trees).map ExportedEntity.id) :
    ∃ rest, rest.filter (· ∈ (allSubtrees dump).map ExportedEntity.id) =
        trees.map ExportedEntity.id ∧
      ∀ next, getOrCreateEntity
          { importer with treeStack := { entry with childrenLeft := some rest } :: above }
          tree.id = some next →
        importer.walkChildren entry above left = some next := by
  induction left with
  | nil => contradiction
  | cons id left ih =>
    by_cases isKnown : id ∈ (allSubtrees dump).map ExportedEntity.id
    · rw [filter_cons_of_pos (by simpa using isKnown), map_cons, List.cons.injEq] at areLeft
      refine ⟨left, areLeft.2, ?_⟩
      intro next isNext
      rw [walkChildren, areLeft.1, isNext]
    · rw [filter_cons_of_neg (by simpa using isKnown)] at areLeft
      obtain ⟨rest, areRest, walks⟩ := ih areLeft
      refine ⟨rest, areRest, ?_⟩
      intro next isNext
      rw [walkChildren_of_unknown (consistent.noOther id isKnown)]
      exact walks next isNext

theorem walkChildren_nil
    (noneLeft : left.filter (· ∈ (allSubtrees dump).map ExportedEntity.id) = []) :
    importer.walkChildren entry above left = none := by
  induction left with
  | nil => rfl
  | cons id left ih =>
    rw [filter_eq_nil_iff] at noneLeft
    have isUnknown : id ∉ (allSubtrees dump).map ExportedEntity.id := by
      simpa using noneLeft id mem_cons_self
    rw [walkChildren_of_unknown (consistent.noOther id isUnknown)]
    apply ih
    rw [filter_eq_nil_iff]
    exact fun other isLeft => noneLeft other (mem_cons_of_mem _ isLeft)

end

/-- References left are of known ones. -/
def Resolvable (importer : EntityImporterBase) : Prop :=
  importer.entitiesWithReferenceAttributes.isEmpty = true ∨
    ∃ id ∈ importer.entitiesWithReferenceAttributes.keys, (importer.created? id).isSome = true

theorem kept_walkChildren (wellFormed : WellFormed dump) (consistent : Consistent dump importer)
    (underway : importer.Under) {parent tree : ExportedEntity} {entry : StackEntry}
    {trees todo : List ExportedEntity} {above : List StackEntry}
    (isParent : parent ∈ allSubtrees dump)
    (areChildren : ∀ child ∈ tree :: trees, child ∈ parent.nested)
    (isEntry : entry.obj = parent.persisted)
    (areLeft : left.filter (· ∈ (allSubtrees dump).map ExportedEntity.id) =
      (tree :: trees).map ExportedEntity.id)
    (isRestored : importer.serverId? parent.id = some entry.restoredId)
    (isNamed : entry.restoredId ≠ "") (way : Way dump importer.serverId? parent above todo)
    (covers : Covers dump importer ((tree :: trees) ++ todo)) :
    ∃ next, importer.walkChildren entry above left = some next ∧ Kept dump next := by
  obtain ⟨rest, areRest, walks⟩ := walkChildren_cons consistent entry above areLeft
  have isChild := areChildren tree mem_cons_self
  obtain ⟨next, isNext, kept⟩ := @kept_getOrCreateEntity dump
    { importer with treeStack := { entry with childrenLeft := some rest } :: above } wellFormed
    (consistent.of_same rfl rfl rfl rfl)
    ⟨underway.noSets, underway.noneInTransit, underway.notYet⟩ tree (trees ++ todo)
    (mem_allSubtrees_of_nested isChild isParent)
    (.under isParent isChild
      (fun child isRest => areChildren child (mem_cons_of_mem _ isRest)) isEntry rfl areRest
      isRestored isNamed way)
    (cons_ne_nil _ _) (covers.of_same rfl)
  exact ⟨next, walks next isNext, kept⟩

/-- Set for the references of a created entity. -/
def resolution (importer : EntityImporterBase) (entry : String × List ReferencedEntry) :
    Option Request :=
  match importer.created? entry.1, importer.persistedEntities[entry.1]? with
  | some createdId, some persistedEntity =>
    some (.resolve entry.1 createdId (entry.2.map fun referenceEntry =>
      (referenceEntry.propertyName, resolveEntityReferences importer.created?
        ((persistedEntity.attributes.lookup referenceEntry.propertyName).getD .none))))
  | _, _ => none

/-- All of them. -/
def resolutions (importer : EntityImporterBase) : List Request :=
  importer.entitiesWithReferenceAttributes.toList.filterMap importer.resolution

/-- Importer after some of these Sets. -/
def resolved (importer : EntityImporterBase) (requests : List Request) : EntityImporterBase :=
  { importer with
    sent := importer.sent ++ requests
    serialno := importer.serialno + requests.length
    setOpsInTransit := importer.setOpsInTransit + requests.length
    awaitedSets := importer.awaitedSets + requests.length }

theorem resolved_resolved (importer : EntityImporterBase) (first second : List Request) :
    (importer.resolved first).resolved second = importer.resolved (first ++ second) := by
  simp only [resolved, append_assoc, length_append, Nat.add_assoc, Int.add_assoc, Nat.cast_add]

theorem sendResolved_eq (entry : String × List ReferencedEntry)
    (known : (importer.persistedEntities[entry.1]?).isSome = true) :
    importer.sendResolved entry = importer.resolved (importer.resolution entry).toList := by
  obtain ⟨persistedEntity, isPersisted⟩ := Option.isSome_iff_exists.mp known
  rw [sendResolved, resolution, isPersisted]
  cases importer.created? entry.1 with
  | none => simp [resolved]
  | some createdId => rfl

theorem foldl_sendResolved (importer : EntityImporterBase)
    (entries : List (String × List ReferencedEntry))
    (known : ∀ entry ∈ entries, (importer.persistedEntities[entry.1]?).isSome = true) :
    entries.foldl sendResolved importer =
      importer.resolved (entries.filterMap importer.resolution) := by
  induction entries generalizing importer with
  | nil => simp [resolved]
  | cons entry rest ih =>
    have knownRest : ∀ other ∈ rest, ((importer.resolved
        (importer.resolution entry).toList).persistedEntities[other.1]?).isSome = true :=
      fun other isRest => known other (mem_cons_of_mem _ isRest)
    have requests : (entry :: rest).filterMap importer.resolution =
        (importer.resolution entry).toList ++ rest.filterMap importer.resolution := by
      cases isRequest : importer.resolution entry with
      | none => simp [filterMap_cons_none isRequest]
      | some request => simp [filterMap_cons_some isRequest]
    rw [foldl_cons, sendResolved_eq entry (known entry mem_cons_self),
      ih _ knownRest, resolved_resolved, requests]
    rfl

theorem mem_resolutions :
    request ∈ importer.resolutions ↔ ∃ id entries,
      importer.entitiesWithReferenceAttributes[id]? = some entries ∧
        importer.resolution (id, entries) = some request := by
  rw [resolutions, List.mem_filterMap]
  constructor
  · rintro ⟨⟨id, entries⟩, isEntry, isRequest⟩
    exact ⟨id, entries, ExtTreeMap.mem_toList_iff_getElem?_eq_some.mp isEntry, isRequest⟩
  · rintro ⟨id, entries, isEntry, isRequest⟩
    exact ⟨(id, entries), ExtTreeMap.mem_toList_iff_getElem?_eq_some.mpr isEntry, isRequest⟩

theorem restored?_of_mem_resolutions (isMember : request ∈ importer.resolutions) :
    request.restored? = none ∧ ∀ id loc parent attributes,
      request ≠ .create id loc parent attributes := by
  obtain ⟨id, entries, _, isRequest⟩ := mem_resolutions.mp isMember
  rw [resolution] at isRequest
  split at isRequest
  · rw [← Option.some.inj isRequest]
    refine ⟨rfl, ?_⟩
    intro _ _ _ _
    exact fun same => by contradiction
  · contradiction

theorem lookup_map_names {β : Type} (entries : List ReferencedEntry) (value : String → β)
    (name : String) :
    (entries.map fun entry => (entry.propertyName, value entry.propertyName)).lookup name =
      if name ∈ entries.map ReferencedEntry.propertyName then some (value name) else none := by
  induction entries with
  | nil => rfl
  | cons entry rest ih =>
    rw [map_cons, lookup_cons, ih, map_cons]
    by_cases isName : name = entry.propertyName
    · rw [beq_iff_eq.mpr isName, if_pos (List.mem_cons.mpr (.inl isName)), isName]
    · rw [beq_eq_false_iff_ne.mpr isName]
      simp only [mem_cons, isName, false_or]

variable {property : String × Element}

theorem valueFor?_resolution (wellFormed : WellFormed dump) (consistent : Consistent dump importer)
    {entries : List ReferencedEntry} (isRequest : importer.resolution (id, entries) = some request)
    (isEntity : entity ∈ allSubtrees dump)
    (isProperty : property ∈ entity.message.attributes) :
    request.valueFor? entity.id property.1 =
      if id = entity.id ∧ property.1 ∈ entries.map ReferencedEntry.propertyName then
        some (resolveEntityReferences importer.created? property.2)
      else none := by
  rw [resolution] at isRequest
  split at isRequest
  · rename_i createdId persistedEntity isCreated isPersisted
    rw [← Option.some.inj isRequest, Request.valueFor?]
    by_cases isId : id = entity.id
    · subst isId
      rw [consistent.persisted entity isEntity, Option.some.injEq] at isPersisted
      have isValue : persistedEntity.attributes.lookup property.1 = some property.2 := by
        rw [← isPersisted]
        exact lookup_of_mem (wellFormed.keys entity isEntity) isProperty
      rw [if_pos rfl, lookup_map_names entries (fun name => resolveEntityReferences
        importer.created? ((persistedEntity.attributes.lookup name).getD .none)), isValue]
      simp only [true_and, getD_some]
    · rw [if_neg isId, if_neg (fun both => isId both.1)]
  · contradiction

theorem lastSent_resolved (requests : List Request) (id name : String) :
    (importer.resolved requests).lastSent id name =
      (requests.filterMap (Request.valueFor? id name)).getLast?.or (importer.lastSent id name) := by
  rw [lastSent, resolved, filterMap_append, getLast?_append, lastSent]

theorem lastSent_resolutions (wellFormed : WellFormed dump) (consistent : Consistent dump importer)
    (isEntity : entity ∈ allSubtrees dump)
    (isProperty : property ∈ entity.message.attributes)
    (isSent : importer.Settled entity.id property.1 property.2 ∨
      (importer.Owed entity.id property.1 ∧ (importer.created? entity.id).isSome = true)) :
    (importer.resolved importer.resolutions).lastSent entity.id property.1 =
      some (resolveEntityReferences importer.created? property.2) := by
  have allSame : ∀ value ∈ importer.resolutions.filterMap
      (Request.valueFor? entity.id property.1),
      value = resolveEntityReferences importer.created? property.2 := by
    intro value isValue
    obtain ⟨request, isRequest, hasValue⟩ := List.mem_filterMap.mp isValue
    obtain ⟨id, entries, _, isResolution⟩ := mem_resolutions.mp isRequest
    rw [valueFor?_resolution wellFormed consistent isResolution isEntity isProperty] at hasValue
    split at hasValue
    · exact (Option.some.inj hasValue).symm
    · contradiction
  rw [lastSent_resolved]
  cases isLast : (importer.resolutions.filterMap
      (Request.valueFor? entity.id property.1)).getLast? with
  | some value =>
    rw [allSame value (mem_of_getLast? isLast)]
    rfl
  | none =>
    rw [getLast?_eq_none_iff, filterMap_eq_nil_iff] at isLast
    rcases isSent with isSettled | ⟨⟨entries, isEntries, isName⟩, isCreated⟩
    · exact isSettled.1
    · obtain ⟨createdId, isCreatedId⟩ := Option.isSome_iff_exists.mp isCreated
      have isResolution : ∃ request, importer.resolution (entity.id, entries) = some request := by
        rw [resolution, isCreatedId, consistent.persisted entity isEntity]
        exact ⟨_, rfl⟩
      obtain ⟨request, isRequest⟩ := isResolution
      have noValue := isLast request (mem_resolutions.mpr ⟨_, _, isEntries, isRequest⟩)
      rw [valueFor?_resolution wellFormed consistent isRequest isEntity isProperty,
        if_pos ⟨rfl, isName⟩] at noValue
      contradiction

theorem restoredIds_resolutions :
    (importer.resolved importer.resolutions).restoredIds = importer.restoredIds := by
  rw [restoredIds, resolved, filterMap_append, restoredIds]
  have none : importer.resolutions.filterMap Request.restored? = [] :=
    List.filterMap_eq_nil_iff.mpr fun request isMember => (restored?_of_mem_resolutions isMember).1
  rw [none, append_nil]

theorem updatedIds_resolutions :
    (importer.resolved importer.resolutions).updatedIds = importer.updatedIds := by
  rw [updatedIds, resolved, filterMap_append, updatedIds]
  have none : importer.resolutions.filterMap Request.updated? = [] := by
    rw [filterMap_eq_nil_iff]
    intro request isMember
    by_contra isUpdate
    obtain ⟨id, isUpdate⟩ := Option.ne_none_iff_exists'.mp isUpdate
    have restores := restored?_of_updated? isUpdate
    rw [(restored?_of_mem_resolutions isMember).1] at restores
    contradiction
  rw [none, append_nil]

theorem serverId?_resolutions :
    (importer.resolved importer.resolutions).serverId? = importer.serverId? := by
  funext id
  rw [serverId?, updatedIds_resolutions]
  rfl

theorem Consistent.resolutions (wellFormed : WellFormed dump)
    (consistent : Consistent dump importer) :
    Consistent dump (importer.resolved importer.resolutions) := by
  refine ⟨consistent.intact, consistent.persisted, consistent.noOther, ?_, consistent.known, ?_,
    ?_, ?_, ?_, ?_⟩
  · rw [restoredIds_resolutions]
    exact consistent.untouched
  · rw [restoredIds_resolutions, updatedIds_resolutions]
    exact consistent.created
  · rw [updatedIds_resolutions]
    exact consistent.plain
  · rw [restoredIds_resolutions]
    intro entity isEntity isRestored property isProperty named
    rcases consistent.values entity isEntity isRestored property isProperty named with
      isSettled | isOwed
    · exact .inl ⟨lastSent_resolutions wellFormed consistent isEntity isProperty (.inl isSettled),
        isSettled.2⟩
    · exact .inr isOwed
  · rw [serverId?_resolutions]
    intro id loc parent attributes isSent
    rcases List.mem_append.mp isSent with before | isNew
    · exact consistent.places id loc parent attributes before
    · exact absurd rfl ((restored?_of_mem_resolutions isNew).2 id loc parent attributes)
  · rw [restoredIds_resolutions]
    exact consistent.parentFirst

theorem resolve_serverId? (value : Element) :
    resolveEntityReferences importer.serverId? value =
      resolveEntityReferences importer.created? value := by
  apply resolve_congr
  intro id _
  rw [serverId?]
  cases importer.created? id with
  | some createdId => rfl
  | none =>
    rw [none_or]
    split
    · rfl
    · rfl

section

variable (wellFormed : WellFormed dump) (consistent : Consistent dump importer)

include wellFormed consistent

theorem resolves_resolutions : Resolves dump (importer.resolved importer.resolutions) := by
  rw [Resolves, serverId?_resolutions]
  intro entity isEntity hasServerId property isProperty named
  obtain ⟨serverId, isServerId⟩ := Option.isSome_iff_exists.mp hasServerId
  rw [resolve_serverId?]
  apply lastSent_resolutions wellFormed consistent isEntity isProperty
  have isRestored := consistent.restored_of_serverId? isServerId
  rcases consistent.values entity isEntity isRestored property isProperty named with
    isSettled | isOwed
  · exact .inl isSettled
  · right
    refine ⟨isOwed, ?_⟩
    rw [serverId?, or_eq_some_iff] at isServerId
    rcases isServerId with isCreated | ⟨_, isUpdated⟩
    · rw [isCreated]
      rfl
    · split at isUpdated
      · rename_i isMember
        obtain ⟨entries, isEntries, _⟩ := isOwed
        rw [consistent.plain _ isMember] at isEntries
        contradiction
      · contradiction

/-- At the end of the walk come the references. -/
theorem kept_sendResolvedEntityReferences (underway : importer.Under)
    (awaitsNothing : importer.awaited = none) (covers : Covers dump importer [])
    (resolvable : importer.Resolvable) :
    Kept dump importer.sendResolvedEntityReferences := by
  have resolvedConsistent := consistent.resolutions wellFormed
  have resolves := resolves_resolutions wellFormed consistent
  have coversAll := covers.of_same (@restoredIds_resolutions importer)
  rw [sendResolvedEntityReferences]
  by_cases isEmpty : importer.entitiesWithReferenceAttributes.isEmpty = true
  · have noRequests : importer.resolutions = [] := by
      rw [resolutions, ExtTreeMap.toList_eq_nil_iff.mpr (ExtTreeMap.isEmpty_iff.mp isEmpty),
        filterMap_nil]
    have nothing : importer.resolved [] = importer := by simp [resolved]
    rw [noRequests, nothing] at resolves
    rw [if_pos isEmpty]
    refine ⟨consistent.of_same rfl rfl rfl rfl, ?_⟩
    refine .resolving rfl awaitsNothing ?_ (.inr ⟨?_, underway.noSets⟩) (covers.of_same rfl)
      resolves
    · change importer.setOpsInTransit = importer.awaitedSets
      rw [underway.noneInTransit, underway.noSets]
      rfl
    · change importer.completions + 1 = 1
      rw [underway.notYet]
  · have known : ∀ entry ∈ importer.entitiesWithReferenceAttributes.toList,
        (importer.persistedEntities[entry.1]?).isSome = true := by
      intro entry isEntry
      rw [mem_toList_iff_getElem?_eq_some] at isEntry
      have isKnown := consistent.known entry.1 (by
        rw [mem_iff_isSome_getElem?, isEntry]
        rfl)
      obtain ⟨entity, isEntity, isId⟩ := List.mem_map.mp isKnown
      rw [← isId, consistent.persisted entity isEntity]
      rfl
    have someRequest : importer.resolutions ≠ [] := by
      obtain ⟨id, isKey, isCreated⟩ := resolvable.resolve_left isEmpty
      have isReference := ExtTreeMap.mem_keys.mp isKey
      obtain ⟨entries, isEntries⟩ := Option.isSome_iff_exists.mp
        (ExtTreeMap.mem_iff_isSome_getElem?.mp isReference)
      obtain ⟨createdId, isCreatedId⟩ := Option.isSome_iff_exists.mp isCreated
      obtain ⟨entity, isEntity, isId⟩ := List.mem_map.mp (consistent.known id isReference)
      have isPersisted := consistent.persisted entity isEntity
      rw [isId] at isPersisted
      apply ne_nil_of_mem
      · apply mem_resolutions.mpr
        refine ⟨id, entries, isEntries, ?_⟩
        rw [resolution, isCreatedId, isPersisted]
    have folded := foldl_sendResolved { importer with state := .refResolving }
      importer.entitiesWithReferenceAttributes.toList known
    rw [if_neg isEmpty, folded]
    change Kept dump (resolved { importer with state := .refResolving } importer.resolutions)
    refine ⟨resolvedConsistent.of_same rfl rfl rfl rfl, ?_⟩
    refine .resolving rfl awaitsNothing ?_ (.inl ⟨underway.notYet, ?_⟩)
      (coversAll.of_same rfl) resolves
    · change importer.setOpsInTransit + importer.resolutions.length =
        ((importer.awaitedSets + importer.resolutions.length : Nat) : Int)
      rw [underway.noneInTransit, underway.noSets]
      simp
    · change importer.awaitedSets + importer.resolutions.length ≠ 0
      have positive := List.length_pos_iff.mpr someRequest
      omega

end

/-- The walk ends when no child is left. -/
def NoneLeft (importer : EntityImporterBase) (above : List StackEntry) : Prop :=
  ∀ entry ∈ above, ∀ id ∈ entry.childrenLeft.getD [], id ∉ importer.persistedEntities

/-- An entity to be created lists what is there, or waits for references. -/
def Walkable (importer : EntityImporterBase) : Prop :=
  ∀ current ∈ importer.treeStack.head?,
    (current.obj.contains = [] ∨
      ∃ id ∈ current.obj.contains, id ∈ importer.persistedEntities) ∧
    (current.obj.contains = [] → importer.NoneLeft importer.treeStack.tail → importer.Resolvable)

theorem Walkable.of_same {other : EntityImporterBase} (walkable : importer.Walkable)
    (sameStack : other.treeStack = importer.treeStack)
    (sameTables : other.toImportTables = importer.toImportTables)
    (sameMap : other.entityIdMap = importer.entityIdMap) : other.Walkable := by
  cases importer
  cases other
  dsimp only at sameStack sameTables sameMap
  subst sameStack sameTables sameMap
  exact walkable

theorem Consistent.not_mem_persisted (consistent : Consistent dump importer)
    (unknown : id ∉ (allSubtrees dump).map ExportedEntity.id) :
    id ∉ importer.persistedEntities := by
  rw [mem_iff_isSome_getElem?, consistent.noOther id unknown]
  exact Bool.false_ne_true

theorem Way.noneLeft (consistent : Consistent dump importer)
    {serverId? : String → Option String} {tree : ExportedEntity} {above : List StackEntry}
    {todo : List ExportedEntity} (way : Way dump serverId? tree above todo) (isOver : todo = []) :
    importer.NoneLeft above := by
  induction way with
  | top isTop => exact fun entry isEntry => absurd isEntry not_mem_nil
  | under isParent isChild areChildren isEntry isLeft areLeft isRestored isNamed _ ih =>
    obtain ⟨noTrees, noTodo⟩ := List.append_eq_nil_iff.mp isOver
    rw [noTrees, map_nil, filter_eq_nil_iff] at areLeft
    intro other isOther id isId
    rcases List.mem_cons.mp isOther with isFirst | isRest
    · rw [isFirst, isLeft, getD_some] at isId
      exact consistent.not_mem_persisted (by simpa using areLeft id isId)
    · exact ih noTodo other isRest id isId

section

variable (wellFormed : WellFormed dump) (consistent : Consistent dump importer)
  (underway : importer.Under) (awaitsNothing : importer.awaited = none) {tree : ExportedEntity}
  {above : List StackEntry} {todo : List ExportedEntity}

include wellFormed consistent underway awaitsNothing

theorem kept_walkParents
    (way : Way dump importer.serverId? tree above todo) (covers : Covers dump importer todo)
    (resolvable : todo = [] → importer.Resolvable) : Kept dump (importer.walkParents above) := by
  induction way with
  | top isTop =>
    rw [walkParents]
    have popped : Consistent dump { importer with treeStack := [] } :=
      consistent.of_same rfl rfl rfl rfl
    exact kept_sendResolvedEntityReferences wellFormed popped
      ⟨underway.noSets, underway.noneInTransit, underway.notYet⟩ awaitsNothing
      (covers.of_same rfl) (resolvable rfl)
  | @under child parent entry left trees todo above isParent isChild areChildren isEntry isLeft
      areLeft isRestored isNamed wayUp ih =>
      rw [walkParents, isLeft]
      dsimp only
      cases trees with
      | nil =>
        rw [walkChildren_nil consistent entry above areLeft]
        exact ih covers resolvable
      | cons next rest =>
        obtain ⟨walked, walks, kept⟩ := kept_walkChildren wellFormed consistent underway isParent
          areChildren isEntry areLeft isRestored isNamed wayUp covers
        rw [walks]
        exact kept

/-- The next child, here or above. -/
theorem kept_walkEntities {current : StackEntry} (here : At dump importer tree current above todo)
    (covers : Covers dump importer (tree.nested ++ todo))
    (isRestored : tree.persisted.contains ≠ [] →
      importer.serverId? tree.id = some current.restoredId ∧ current.restoredId ≠ "")
    (walkable : importer.Walkable) : Kept dump importer.walkEntities := by
  obtain ⟨isTree, isStack, isObj, way⟩ := here
  obtain ⟨hasChild, resolvable⟩ := walkable current (by rw [isStack]; rfl)
  rw [isObj] at hasChild resolvable
  rw [isStack, tail_cons] at resolvable
  have areListed : tree.persisted.contains.filter
      (· ∈ (allSubtrees dump).map ExportedEntity.id) = tree.nested.map ExportedEntity.id := by
    change (listedContains tree.message.attributes ++ tree.nested.map ExportedEntity.id).filter _ =
      _
    rw [filter_append]
    have noneListed : (listedContains tree.message.attributes).filter
        (· ∈ (allSubtrees dump).map ExportedEntity.id) = [] := by
      rw [filter_eq_nil_iff]
      intro id isListed
      simpa using wellFormed.unexported tree isTree id isListed
    have allNested : (tree.nested.map ExportedEntity.id).filter
        (· ∈ (allSubtrees dump).map ExportedEntity.id) = tree.nested.map ExportedEntity.id := by
      rw [filter_eq_self]
      intro id isNested
      obtain ⟨child, isChild, rfl⟩ := List.mem_map.mp isNested
      exact decide_eq_true (List.mem_map_of_mem (mem_allSubtrees_of_nested isChild isTree))
    rw [noneListed, allNested, nil_append]
  rw [walkEntities, isStack]
  simp only [isObj]
  by_cases noContains : tree.persisted.contains = []
  · rw [if_pos (by simpa using noContains)]
    have noNested : tree.nested = [] := by
      rw [noContains, filter_nil] at areListed
      exact List.map_eq_nil_iff.mp areListed.symm
    rw [noNested, nil_append] at covers
    apply kept_walkParents wellFormed consistent underway awaitsNothing way covers
    intro isOver
    exact resolvable noContains (way.noneLeft consistent isOver)
  · rw [if_neg (by simpa using noContains)]
    obtain ⟨isServerId, isNamed⟩ := isRestored noContains
    cases isNested : tree.nested with
    | nil =>
      exfalso
      rw [isNested, map_nil, filter_eq_nil_iff] at areListed
      obtain ⟨id, isListed, isPersisted⟩ := hasChild.resolve_left noContains
      exact consistent.not_mem_persisted (by simpa using areListed id isListed) isPersisted
    | cons next rest =>
      rw [isNested] at areListed covers
      have areChildren : ∀ child ∈ next :: rest, child ∈ tree.nested := by
        rw [isNested]
        exact fun child isChild => isChild
      obtain ⟨walked, walks, kept⟩ := kept_walkChildren wellFormed consistent underway isTree
        areChildren isObj areListed isServerId isNamed way covers
      rw [walks]
      exact kept

end

/-! ## The answers -/

/-- The importer is made for the answer. -/
def Fits (dump : List ExportedEntity) (importer : EntityImporterBase) : Answer → Prop
  | .sight (.object (some id) :: _) =>
    importer.state = .walkStart ∧ id ∈ dump.map ExportedEntity.id
  | .sight (.operation true :: _) => importer.state = .updating ∧ importer.Walkable
  | .info (arg :: _) =>
    (importer.state = .walking ∧ arg.isEntity = true ∧ ∃ current ∈ importer.treeStack.head?,
      arg.id = current.obj.id ∧
      if importer.createsAnew arg current.obj = true then importer.treeStack.tail ≠ []
      else current.obj.id ∉ importer.entitiesWithReferenceAttributes) ∨
    (importer.state = .creating ∧ arg.id ≠ "" ∧ ∃ refno ∈ importer.awaited,
      ∃ current ∈ importer.treeStack.head?,
        (importer.recordCreated refno arg.id current importer.treeStack.tail).Walkable)
  | .error =>
    (importer.state = .walking ∧ 1 < importer.treeStack.length) ∨
    (importer.state = .creating ∧ importer.Walkable ∧
      ∀ current ∈ importer.treeStack.head?, current.obj.contains = [])
  | .sight [] => False
  | .sight (.object none :: _) => False
  | .sight (.operation false :: _) => False
  | .info [] => False
  | .other => False

/-- Every answer that is awaited fits. -/
def LeadsOn (dump : List ExportedEntity) (importer : EntityImporterBase) : ImportEvent → Prop
  | .setAnswered => True
  | .answered answer => importer.awaited = none ∨ Fits dump importer answer

theorem kept_start (consistent : Consistent dump importer) (underway : importer.Under)
    (noStack : importer.treeStack = []) (nothing : importer.restoredIds = [])
    (isTop : id ∈ dump.map ExportedEntity.id) :
    Kept dump ((importer.getEntity id).getD importer) := by
  obtain ⟨root, isRoot, rfl⟩ := List.mem_map.mp isTop
  have isTree : root ∈ allSubtrees dump :=
    mem_allSubtrees.mpr ⟨root, isRoot, self_mem_subtrees root⟩
  obtain ⟨next, isNext, kept⟩ := @kept_getEntity dump importer [] root consistent underway isTree
    (by rw [noStack]; exact .top isRoot)
    ⟨root, isRoot, by simp [nothing, allSubtrees]⟩
  rw [isNext]
  exact kept

section

variable (wellFormed : WellFormed dump) (consistent : Consistent dump importer)
  (underway : importer.Under) {tree : ExportedEntity} {current : StackEntry}
  {above : List StackEntry} {todo : List ExportedEntity}

include wellFormed consistent underway

/-- An entity is updated, or created after all. -/
theorem kept_update
    (here : At dump importer tree current above todo) (covers : Covers dump importer (tree :: todo))
    (noReferences : importer.entitiesWithReferenceAttributes[tree.id]? = none) :
    Kept dump (sendOperation
      { importer with
        state := .updating, treeStack := { current with restoredId := tree.id } :: above }
      (.update tree.id (updateAttributes tree.persisted))) := by
  have fresh := covers.fresh wellFormed
  obtain ⟨isTree, isStack, isObj, way⟩ := here
  have after : tree.id ∈ dump.map ExportedEntity.id ∨
      ∃ entity ∈ allSubtrees dump, entity.id ∈ importer.restoredIds ∧
        tree.id ∈ entity.nested.map ExportedEntity.id := by
    cases way with
    | top isTop => exact .inl (List.mem_map_of_mem isTop)
    | under isParent isChild areChildren isEntry isLeft areLeft isRestored isNamed wayUp =>
      exact .inr ⟨_, isParent, consistent.restored_of_serverId? isRestored,
        List.mem_map_of_mem isChild⟩
  generalize isRequest : Request.update tree.id (updateAttributes tree.persisted) = request
  have sent : Consistent dump
      (importer.sending request importer.entitiesWithReferenceAttributes) := by
    rw [← isRequest]
    exact consistent.sendUpdate wellFormed isTree fresh noReferences after
  have isTarget : request.restored? = some tree.id ∧ request.updated? = some tree.id := by
    rw [← isRequest]
    exact ⟨rfl, rfl⟩
  have grows : ∀ id serverId, importer.serverId? id = some serverId → (importer.sending
      request importer.entitiesWithReferenceAttributes).serverId? id = some serverId :=
    fun id serverId => serverId?_sending
  have restored : (importer.sending request
      importer.entitiesWithReferenceAttributes).restoredIds =
        importer.restoredIds ++ [tree.id] := by
    rw [restoredIds_sending, isTarget.1, toList_some]
  have isUpdated : tree.id ∈ (importer.sending request
      importer.entitiesWithReferenceAttributes).updatedIds :=
    mem_updatedIds_sending.mpr (.inr isTarget.2)
  have isServerId : (importer.sending request
      importer.entitiesWithReferenceAttributes).serverId? tree.id = some tree.id := by
    have uncreated : importer.created? tree.id = none := by
      by_contra isCreated
      exact fresh (consistent.created tree.id (Option.isSome_iff_ne_none.mpr isCreated)).1
    rw [serverId?, if_pos isUpdated]
    change (importer.created? tree.id).or _ = _
    rw [uncreated, none_or]
  refine ⟨sent.of_same rfl rfl rfl rfl, ?_⟩
  refine @Phase.updating _ _ tree { current with restoredId := tree.id } above todo rfl rfl
    isServerId (wellFormed.named tree isTree)
    ⟨underway.noSets, underway.noneInTransit, underway.notYet⟩
    ⟨isTree, rfl, isObj, way.mono grows⟩ (covers.restore restored)

theorem kept_created (awaitsNothing : importer.awaited = none) {refno : Nat}
    (mapped : importer.createEntityMapping.lookup refno = some tree.id)
    (isRestored : tree.id ∈ importer.restoredIds) (notUpdated : tree.id ∉ importer.updatedIds)
    (uncreated : importer.created? tree.id = none) (here : At dump importer tree current above todo)
    (covers : Covers dump importer (tree.nested ++ todo)) (named : id ≠ "")
    (walkable : (importer.recordCreated refno id current above).Walkable) :
    Kept dump (importer.recordCreated refno id current above).walkEntities := by
  obtain ⟨isTree, isStack, isObj, way⟩ := here
  have recorded : importer.recordCreated refno id current above =
      { importer.recording tree.id id with
        newIds := id :: importer.newIds
        treeStack := { current with restoredId := id } :: above
        createEntityMapping := importer.createEntityMapping.filter fun entry =>
          entry.1 ≠ refno } := by
    rw [recordCreated, mapped]
    simp only [uncreated]
    rfl
  rw [recorded] at walkable ⊢
  have consistentAfter : Consistent dump
      { importer.recording tree.id id with
        newIds := id :: importer.newIds
        treeStack := { current with restoredId := id } :: above
        createEntityMapping := importer.createEntityMapping.filter fun entry =>
          entry.1 ≠ refno } :=
    (consistent.recording isRestored notUpdated uncreated).of_same rfl rfl rfl rfl
  have isServerId : (importer.recording tree.id id).serverId? tree.id = some id := by
    rw [serverId?, created?_recording, if_pos rfl, some_or]
  refine kept_walkEntities wellFormed consistentAfter
    ⟨underway.noSets, underway.noneInTransit, underway.notYet⟩ awaitsNothing
    ⟨isTree, rfl, isObj, ?_⟩ (covers.of_same rfl) (fun _ => ⟨isServerId, named⟩) walkable
  exact way.mono fun other serverId => serverId?_recording uncreated notUpdated

end

theorem kept_answered_start (consistent : Consistent dump importer)
    (isState : importer.state = .walkStart) (underway : importer.Under)
    (noStack : importer.treeStack = []) (nothing : importer.restoredIds = []) {answer : Answer}
    (fits : Fits dump importer answer) (refno : Nat) :
    Kept dump (operation { importer with awaited := none } refno answer) := by
  simp only [operation, isState]
  cases answer with
  | sight args =>
    cases args with
    | nil => exact fits.elim
    | cons arg args =>
      cases arg with
      | operation isUpdate =>
        cases isUpdate with
        | false => exact fits.elim
        | true => simp [Fits, isState] at fits
      | object id =>
        cases id with
        | none => exact fits.elim
        | some id =>
          simp only [sightArrived]
          have started : Consistent dump { importer with awaited := none, state := .walkStart } :=
            consistent.of_same rfl rfl rfl rfl
          exact kept_start started
            ⟨underway.noSets, underway.noneInTransit, underway.notYet⟩ noStack nothing
            fits.2
  | info args =>
    cases args with
    | nil => exact fits.elim
    | cons arg args => simp [Fits, isState] at fits
  | error => simp [Fits, isState] at fits
  | other => exact fits.elim

section

variable {tree : ExportedEntity} {current : StackEntry} {above : List StackEntry}
   {todo : List ExportedEntity} {answer : Answer} (wellFormed : WellFormed dump)
   (consistent : Consistent dump importer)

include wellFormed consistent

/-- The answer to a Get. -/
theorem kept_answered_walking (isState : importer.state = .walking) (underway : importer.Under)
    (here : At dump importer tree current above todo) (covers : Covers dump importer (tree :: todo))
    (fits : Fits dump importer answer) (refno : Nat) :
    Kept dump (operation { importer with awaited := none } refno answer) := by
  have consistentHere : Consistent dump
      { importer with awaited := none, state := .walking, treeStack := current :: above } :=
    consistent.of_same rfl rfl rfl rfl
  have underwayHere : Under
      { importer with awaited := none, state := .walking, treeStack := current :: above } :=
    ⟨underway.noSets, underway.noneInTransit, underway.notYet⟩
  have atHere : At dump
      { importer with awaited := none, state := .walking, treeStack := current :: above } tree
      current above todo :=
    ⟨here.isTree, rfl, here.obj, here.way⟩
  simp only [operation, isState]
  cases answer with
  | info args =>
    cases args with
    | nil => exact fits.elim
    | cons arg args =>
      simp only [Fits, isState, here.stack, head?_cons, mem_def, Option.some.injEq,
        exists_eq_left', tail_cons, true_and, reduceCtorEq, false_and, or_false] at fits
      obtain ⟨isEntity, isId, condition⟩ := fits
      simp only [infoArrived, here.stack, isEntity, isId, Bool.not_true, ne_eq,
        not_true_eq_false, if_false]
      have sameTest : createsAnew
          { importer with
            awaited := none, state := .walking, treeStack := current :: above } arg
          current.obj = importer.createsAnew arg current.obj := by
        rw [createsAnew, createsAnew, here.stack]
      rw [if_neg Bool.false_ne_true, sameTest]
      by_cases anew : importer.createsAnew arg current.obj = true
      · rw [if_pos anew] at condition ⊢
        rw [here.obj]
        exact kept_createEntity wellFormed consistentHere underwayHere atHere condition
          (covers.of_same rfl)
      · rw [if_neg anew] at condition ⊢
        simp only [here.obj] at condition ⊢
        have kept := kept_update wellFormed consistentHere underwayHere atHere
          (covers.of_same rfl) (ExtTreeMap.getElem?_eq_none condition)
        rw [here.obj] at kept
        exact kept
  | error =>
    simp only [errorArrived, here.stack, here.obj]
    refine kept_createEntity wellFormed consistentHere underwayHere atHere ?_ (covers.of_same rfl)
    rintro rfl
    simp [Fits, isState, here.stack] at fits
  | sight args =>
    cases args with
    | nil => exact fits.elim
    | cons arg args =>
      cases arg with
      | object id => cases id <;> simp [Fits, isState] at fits
      | operation isUpdate => cases isUpdate <;> simp [Fits, isState] at fits
  | other => exact fits.elim

/-- The answer to a Create. -/
theorem kept_answered_creating (isState : importer.state = .creating) (underway : importer.Under)
    {refno : Nat} (isAwaited : importer.awaited = some refno)
    (mapped : importer.createEntityMapping.lookup refno = some tree.id)
    (isRestored : tree.id ∈ importer.restoredIds) (notUpdated : tree.id ∉ importer.updatedIds)
    (uncreated : importer.created? tree.id = none) (here : At dump importer tree current above todo)
    (covers : Covers dump importer (tree.nested ++ todo)) (fits : Fits dump importer answer) :
    Kept dump (operation { importer with awaited := none } refno answer) := by
  have consistentHere : Consistent dump
      { importer with awaited := none, state := .creating, treeStack := current :: above } :=
    consistent.of_same rfl rfl rfl rfl
  have underwayHere : Under
      { importer with awaited := none, state := .creating, treeStack := current :: above } :=
    ⟨underway.noSets, underway.noneInTransit, underway.notYet⟩
  have atHere : At dump
      { importer with awaited := none, state := .creating, treeStack := current :: above } tree
      current above todo :=
    ⟨here.isTree, rfl, here.obj, here.way⟩
  simp only [operation, isState]
  cases answer with
  | info args =>
    cases args with
    | nil => exact fits.elim
    | cons arg args =>
      simp only [Fits, isState, here.stack, isAwaited, head?_cons, mem_def,
        Option.some.injEq, exists_eq_left', tail_cons, true_and, reduceCtorEq, false_and,
        false_or] at fits
      obtain ⟨named, walkable⟩ := fits
      simp only [infoArrived, here.stack]
      refine kept_created wellFormed consistentHere underwayHere rfl mapped isRestored notUpdated
        uncreated atHere (covers.of_same rfl) named ?_
      rw [recordCreated, mapped] at walkable
      rw [recordCreated, mapped]
      exact walkable.of_same rfl rfl rfl
  | error =>
    simp only [Fits, isState, here.stack, head?_cons, mem_def, Option.some.injEq,
      forall_eq', true_and, reduceCtorEq, false_and, false_or] at fits
    obtain ⟨walkable, noContains⟩ := fits
    simp only [errorArrived, here.stack]
    refine kept_walkEntities wellFormed consistentHere underwayHere rfl atHere (covers.of_same rfl)
      ?_ ?_
    · intro hasContains
      rw [here.obj] at noContains
      exact absurd noContains hasContains
    · exact walkable.of_same here.stack.symm rfl rfl
  | sight args =>
    cases args with
    | nil => exact fits.elim
    | cons arg args =>
      cases arg with
      | object id => cases id <;> simp [Fits, isState] at fits
      | operation isUpdate => cases isUpdate <;> simp [Fits, isState] at fits
  | other => exact fits.elim

theorem kept_answered_updating (isState : importer.state = .updating) (underway : importer.Under)
    (isServerId : importer.serverId? tree.id = some current.restoredId)
    (named : current.restoredId ≠ "") (here : At dump importer tree current above todo)
    (covers : Covers dump importer (tree.nested ++ todo)) (fits : Fits dump importer answer)
    (refno : Nat) :
    Kept dump (operation { importer with awaited := none } refno answer) := by
  simp only [operation, isState]
  cases answer with
  | sight args =>
    cases args with
    | nil => exact fits.elim
    | cons arg args =>
      cases arg with
      | object id => cases id <;> simp [Fits, isState] at fits
      | operation isUpdate =>
        cases isUpdate with
        | false => exact fits.elim
        | true =>
          simp only [sightArrived]
          have answering : Consistent dump { importer with awaited := none, state := .updating } :=
            consistent.of_same rfl rfl rfl rfl
          exact kept_walkEntities wellFormed answering
            ⟨underway.noSets, underway.noneInTransit, underway.notYet⟩ rfl
            ⟨here.isTree, here.stack, here.obj, here.way⟩ (covers.of_same rfl)
            (fun _ => ⟨isServerId, named⟩) (fits.2.of_same rfl rfl rfl)
  | info args =>
    cases args with
    | nil => exact fits.elim
    | cons arg args => simp [Fits, isState] at fits
  | error => simp [Fits, isState] at fits
  | other => exact fits.elim

end

theorem Kept.setAnswered (kept : Kept dump importer) : Kept dump (importer.step .setAnswered) := by
  rw [step]
  by_cases none : importer.awaitedSets = 0
  · rw [if_pos none]
    exact kept
  · rw [if_neg none]
    obtain ⟨consistent, phase⟩ := kept
    cases phase with
    | starting isState noStack nothing awaits underway => exact absurd underway.noSets none
    | walking isState awaits underway here covers => exact absurd underway.noSets none
    | creating isState awaits mapped isRestored notUpdated uncreated underway here covers =>
      exact absurd underway.noSets none
    | updating isState awaits isServerId named underway here covers =>
      exact absurd underway.noSets none
    | resolving isState awaits counted progress covers resolves =>
      have notYet := (progress.resolve_right fun done => none done.2).1
      rw [operationSetResult]
      dsimp only
      by_cases isLast : importer.state = .refResolving ∧ importer.setOpsInTransit - 1 = 0
      · rw [if_pos isLast]
        refine ⟨consistent.of_same rfl rfl rfl rfl, ?_⟩
        refine .resolving isState awaits ?_ (.inr ⟨?_, ?_⟩) (covers.of_same rfl) resolves
        · change importer.setOpsInTransit - 1 = ((importer.awaitedSets - 1 : Nat) : Int)
          omega
        · change importer.completions + 1 = 1
          rw [notYet]
        · change importer.awaitedSets - 1 = 0
          omega
      · rw [if_neg isLast]
        refine ⟨consistent.of_same rfl rfl rfl rfl, ?_⟩
        refine .resolving isState awaits ?_ (.inl ⟨notYet, ?_⟩) (covers.of_same rfl) resolves
        · change importer.setOpsInTransit - 1 = ((importer.awaitedSets - 1 : Nat) : Int)
          omega
        · change importer.awaitedSets - 1 ≠ 0
          intro isZero
          exact isLast ⟨isState, by omega⟩

theorem Kept.step (wellFormed : WellFormed dump) (kept : Kept dump importer) (event : ImportEvent)
    (leadsOn : LeadsOn dump importer event) : Kept dump (importer.step event) := by
  cases event with
  | setAnswered => exact kept.setAnswered
  | answered answer =>
    rw [EntityImporterBase.step]
    cases isAwaited : importer.awaited with
    | none => exact kept
    | some refno =>
      have fits := leadsOn.resolve_left (by simp [isAwaited])
      obtain ⟨consistent, phase⟩ := kept
      cases phase with
      | starting isState noStack nothing awaits underway =>
        exact kept_answered_start consistent isState underway noStack nothing fits refno
      | walking isState awaits underway here covers =>
        exact kept_answered_walking wellFormed consistent isState underway here covers fits refno
      | creating isState awaits mapped isRestored notUpdated uncreated underway here covers =>
        obtain rfl := Option.some.inj (awaits.symm.trans isAwaited)
        exact kept_answered_creating wellFormed consistent isState underway awaits mapped
          isRestored notUpdated uncreated here covers fits
      | updating isState awaits isServerId named underway here covers =>
        exact kept_answered_updating wellFormed consistent isState underway isServerId named
          here covers fits refno
      | resolving isState awaits counted progress covers resolves =>
        rw [awaits] at isAwaited
        contradiction

theorem kept_started (wellFormed : WellFormed dump) (alwaysCreateNewEntities : Bool) :
    Kept dump (started alwaysCreateNewEntities dump) := by
  have extracted := wellFormed.extracted
  constructor
  · refine ⟨rfl, extracted.persisted, ?_, ?_, ?_, ?_, ?_, ?_, ?_, ?_⟩
    · intro id isOther
      exact (extracted.samePersisted id isOther).trans getElem?_empty
    · exact fun entity isEntity _ => extracted.references entity isEntity
    · intro id isReference
      by_contra isOther
      rw [mem_iff_isSome_getElem?] at isReference
      change ((extractChildEntities {} dump).1.entitiesWithReferenceAttributes[id]?).isSome = true
        at isReference
      rw [extracted.sameReferences id isOther, getElem?_empty] at isReference
      contradiction
    · exact fun id isCreated => absurd isCreated Bool.false_ne_true
    · exact fun id isUpdated => absurd isUpdated not_mem_nil
    · exact fun entity _ isRestored => absurd isRestored not_mem_nil
    · intro id loc parent attributes isSent
      have isLook := List.mem_singleton.mp isSent
      contradiction
    · intro before id after isRestored
      exact absurd isRestored.symm (append_ne_nil_of_right_ne_nil _ (cons_ne_nil _ _))
  · exact .starting rfl rfl rfl rfl ⟨rfl, rfl, rfl⟩

/-- Every entity is restored once, in its parent. -/
structure ImportsOnce (dump : List ExportedEntity) (importer : EntityImporterBase) : Prop where
  inRange : importer.faulted = false
  once : importer.restoredIds.Nodup
  afterParent : ∀ before id after, importer.restoredIds = before ++ id :: after →
    id ∈ dump.map ExportedEntity.id ∨
      ∃ entity ∈ allSubtrees dump, entity.id ∈ before ∧
        id ∈ entity.nested.map ExportedEntity.id
  inParent : ∀ id loc parent attributes,
    Request.create id loc parent attributes ∈ importer.sent →
      loc ≠ "" ∧ ∃ entity ∈ allSubtrees dump, id ∈ entity.nested.map ExportedEntity.id ∧
        importer.serverId? entity.id = some loc
  goesOn : importer.completions = 0 → importer.awaited.isSome = true ∨ importer.awaitedSets ≠ 0
  completesOnce : importer.completions ≤ 1
  resolves : importer.completions ≠ 0 → Resolves dump importer

theorem Covers.nodup (wellFormed : WellFormed dump) {left : List ExportedEntity}
    (covers : Covers dump importer left) : importer.restoredIds.Nodup := by
  obtain ⟨root, isRoot, isCovered⟩ := covers
  have nodup := nodup_subtrees wellFormed isRoot
  rw [isCovered] at nodup
  exact (nodup_append'.mp nodup).1

theorem Under.importsOnce (consistent : Consistent dump importer) (underway : importer.Under)
    (once : importer.restoredIds.Nodup) (awaits : importer.awaited.isSome = true) :
    ImportsOnce dump importer where
  inRange := consistent.intact
  once := once
  afterParent := consistent.parentFirst
  inParent := consistent.places
  goesOn _ := .inl awaits
  completesOnce := by
    rw [underway.notYet]
    exact Nat.zero_le 1
  resolves isComplete := absurd underway.notYet isComplete

theorem Kept.importsOnce (wellFormed : WellFormed dump) (kept : Kept dump importer) :
    ImportsOnce dump importer := by
  obtain ⟨consistent, phase⟩ := kept
  cases phase with
  | starting isState noStack nothing awaits underway =>
    exact underway.importsOnce consistent (by rw [nothing]; exact nodup_nil) awaits
  | walking isState awaits underway here covers =>
    exact underway.importsOnce consistent (covers.nodup wellFormed) awaits
  | creating isState awaits mapped isRestored notUpdated uncreated underway here covers =>
    exact underway.importsOnce consistent (covers.nodup wellFormed) (by rw [awaits]; rfl)
  | updating isState awaits isServerId named underway here covers =>
    exact underway.importsOnce consistent (covers.nodup wellFormed) awaits
  | resolving isState awaits counted progress covers resolves =>
    refine ⟨consistent.intact, covers.nodup wellFormed, consistent.parentFirst,
      consistent.places, ?_, ?_, fun _ => resolves⟩
    · intro notYet
      rcases progress with underway | done
      · exact .inr underway.2
      · rw [done.1] at notYet
        contradiction
    · rcases progress with underway | done
      · rw [underway.1]
        exact Nat.zero_le 1
      · rw [done.1]

/-- Each entity of a dump is created once, with its parent and its references, if every answer is
suitable. -/
theorem run_importsOnce {dump : List ExportedEntity} (wellFormed : WellFormed dump)
    (alwaysCreateNewEntities : Bool) (events : List ImportEvent)
    (leadsOn : Admissible step (LeadsOn dump) (started alwaysCreateNewEntities dump) events) :
    ImportsOnce dump (run step (started alwaysCreateNewEntities dump) events) := by
  have kept : Kept dump (run step (started alwaysCreateNewEntities dump) events) := by
    apply run_invariant (Kept dump)
    · exact fun _ event kept leadsOn => kept.step wellFormed event leadsOn
    · exact kept_started wellFormed alwaysCreateNewEntities
    · exact leadsOn
  exact kept.importsOnce wellFormed

/-- Two that refer to each other, and a third. -/
def villageDump : List ExportedEntity :=
  [.mk { id := some "0", parent := some "world" }
    [.mk { id := some "1", parent := some "house"
           attributes := [("owner", .map [("$eid", .string "2")])] }
      [.mk { id := some "3", parent := some "chest" } []],
     .mk { id := some "2", parent := some "settler"
           attributes := [("home", .map [("$eid", .string "1")])] } []]]

theorem villageDump_wellFormed : WellFormed villageDump where
  identified := by decide +kernel
  named := by decide +kernel
  distinct := by decide +kernel
  unexported := by decide +kernel
  keys := by decide +kernel

instance decidableWalkable (importer : EntityImporterBase) : Decidable importer.Walkable :=
  inferInstanceAs (Decidable (∀ current ∈ importer.treeStack.head?,
    (_ ∨ ∃ id ∈ current.obj.contains, _) ∧
      (_ → (∀ entry ∈ importer.treeStack.tail, ∀ id ∈ entry.childrenLeft.getD [], _) →
        (_ ∨ ∃ id ∈ importer.entitiesWithReferenceAttributes.keys, _))))

instance decidableFits (dump : List ExportedEntity) (importer : EntityImporterBase) :
    ∀ answer : Answer, Decidable (Fits dump importer answer)
  | .sight (.object (some _) :: _) => inferInstanceAs (Decidable (_ ∧ _))
  | .sight (.operation true :: _) => inferInstanceAs (Decidable (_ ∧ _))
  | .info (arg :: _) =>
    inferInstanceAs (Decidable
      ((_ ∧ _ ∧ ∃ current ∈ importer.treeStack.head?, _ ∧
          if importer.createsAnew arg current.obj = true then importer.treeStack.tail ≠ []
          else current.obj.id ∉ importer.entitiesWithReferenceAttributes) ∨
        (_ ∧ _ ∧ ∃ refno ∈ importer.awaited, ∃ current ∈ importer.treeStack.head?, _)))
  | .error => inferInstanceAs (Decidable (_ ∨ _))
  | .sight [] => inferInstanceAs (Decidable False)
  | .sight (.object none :: _) => inferInstanceAs (Decidable False)
  | .sight (.operation false :: _) => inferInstanceAs (Decidable False)
  | .info [] => inferInstanceAs (Decidable False)
  | .other => inferInstanceAs (Decidable False)

instance decidableLeadsOn (dump : List ExportedEntity) (importer : EntityImporterBase) :
    ∀ event : ImportEvent, Decidable (LeadsOn dump importer event)
  | .setAnswered => inferInstanceAs (Decidable True)
  | .answered _ => inferInstanceAs (Decidable (_ ∨ _))

/-- The world is found and updated. -/
def worldUpdated : List ImportEvent :=
  [.answered (.sight [.object (some "0")]),
    .answered (.info [{ id := "0", parent := "world" }]), .answered (.sight [.operation true])]

/-- The other entities are created. -/
def othersCreated : List ImportEvent :=
  [.answered (.info [{ id := "10" }]), .answered (.info [{ id := "11" }]),
    .answered (.info [{ id := "12" }]), .setAnswered]

theorem run_importsOnce_village :
    ImportsOnce villageDump (run step (started true villageDump) (worldUpdated ++ othersCreated)) ∧
      (run step (started true villageDump) (worldUpdated ++ othersCreated)).completions = 1 := by
  constructor
  · apply run_importsOnce villageDump_wellFormed
    decide +kernel
  · decide +kernel

/-- A world that refers to an entity in it. -/
def capitalDump : List ExportedEntity :=
  [.mk { id := some "0", parent := some "world"
         attributes := [("capital", .map [("$eid", .string "1")])] }
    [.mk { id := some "1", parent := some "house" } []]]

theorem capitalDump_wellFormed : WellFormed capitalDump where
  identified := by decide +kernel
  named := by decide +kernel
  distinct := by decide +kernel
  unexported := by decide +kernel
  keys := by decide +kernel

/-- A child is lost; a failed update stops all. -/
theorem run_misplaces_or_stops :
    (WellFormed villageDump ∧ WellFormed capitalDump) ∧
      ¬ ImportsOnce villageDump
        (run step (started true villageDump) (worldUpdated ++ [.answered .error])) ∧
      ¬ ImportsOnce villageDump
        (run step (started true villageDump) (worldUpdated.take 2 ++ [.answered .error])) ∧
      ¬ ImportsOnce capitalDump
        (run step (started true capitalDump)
          (worldUpdated ++ [.answered (.info [{ id := "10" }])])) := by
  refine ⟨⟨villageDump_wellFormed, capitalDump_wellFormed⟩, ?_, ?_, ?_⟩
  · intro importsOnce
    have isSent : Request.create "3" "" "chest" [] ∈
        (run step (started true villageDump) (worldUpdated ++ [.answered .error])).sent := by
      apply mem_of_getElem? (i := 4)
      rfl
    exact (importsOnce.inParent "3" "" "chest" [] isSent).1 rfl
  · intro importsOnce
    have goesOn := importsOnce.goesOn (by decide +kernel)
    revert goesOn
    decide +kernel
  · intro importsOnce
    have goesOn := importsOnce.goesOn (by decide +kernel)
    revert goesOn
    decide +kernel

end EntityImporterBase

end Cyphesis.Tools
