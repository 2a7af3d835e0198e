import Cyphesis.Server.Changes

/-!
# The queues of the storage manager

An entity waits in at most one of the two queues of entities, once, and then carries the flag that
says so.
-/

namespace Cyphesis.Server.StorageManager

open Cyphesis.Atlas List Finset
open Cyphesis.Common
open Cyphesis.Foundation
open Cyphesis.Rules

/-- Where flags and connections say. -/
structure Placed (manager : StorageManager) (id : Nat) : Prop where
  queued : manager.Live id → ((manager.entity id).hasFlags entityQueued = true ↔
    id ∈ manager.unstoredEntities ∨ id ∈ manager.dirtyEntities)
  known : id ∈ manager.unstoredEntities ∨ id ∈ manager.updated →
    id ∈ manager.eobjects ∨ (manager.entity id).isDestroyed = true
  bounded : id ∈ manager.eobjects ∨ id ∈ manager.unstoredEntities ∨ id ∈ manager.updated ∨
    id ∈ manager.destroyedEntities → id ≤ manager.idGenerator
  dirtyUpdated : id ∈ manager.dirtyEntities → id ∈ manager.updated
  unstoredUnconnected : id ∈ manager.unstoredEntities → id ∉ manager.updated
  containeredUpdated : id ∈ manager.containered → id ∈ manager.updated
  updatedContainered : id ∈ manager.updated → id ∈ manager.containered ∨ id = baseId
  tracked : manager.Live id → (manager.entity id).hasFlags entityEphem = false →
    id ∈ manager.unstoredEntities ∨ id ∈ manager.updated
  dropped : id ∈ manager.destroyedEntities → (manager.entity id).isDestroyed = true
  named : (manager.entity id).ModifiersNamed

structure Queues (manager : StorageManager) : Prop where
  placed : ∀ id, manager.Placed id
  unstoredNodup : manager.unstoredEntities.Nodup
  dirtyNodup : manager.dirtyEntities.Nodup
  baseLive : manager.Live baseId
  baseUpdated : baseId ∈ manager.updated
  baseTop : manager.parentOf baseId = none

/-- A change does not concern the entity. -/
structure SamePlace (before after : StorageManager) (id : Nat) : Prop where
  destroyed : (after.entity id).isDestroyed = (before.entity id).isDestroyed
  queued : (after.entity id).hasFlags entityQueued = (before.entity id).hasFlags entityQueued
  ephem : (after.entity id).hasFlags entityEphem = (before.entity id).hasFlags entityEphem
  named : (before.entity id).ModifiersNamed → (after.entity id).ModifiersNamed
  eobjects : id ∈ after.eobjects ↔ id ∈ before.eobjects
  updated : id ∈ after.updated ↔ id ∈ before.updated
  containered : id ∈ after.containered ↔ id ∈ before.containered
  unstored : id ∈ after.unstoredEntities ↔ id ∈ before.unstoredEntities
  dirty : id ∈ after.dirtyEntities ↔ id ∈ before.dirtyEntities
  dropped : id ∈ after.destroyedEntities → id ∈ before.destroyedEntities
  idGenerator : before.idGenerator ≤ after.idGenerator

section

variable {before after : StorageManager} {id : Nat}

theorem SamePlace.live (same : SamePlace before after id) : after.Live id ↔ before.Live id := by
  rw [Live, Live, same.eobjects, same.destroyed]

theorem Placed.congr (placed : before.Placed id) (same : SamePlace before after id) :
    after.Placed id := by
  constructor
  case queued =>
    rw [same.live, same.queued, same.unstored, same.dirty]
    exact placed.queued
  case known =>
    rw [same.unstored, same.updated, same.eobjects, same.destroyed]
    exact placed.known
  case bounded =>
    rw [same.unstored, same.updated, same.eobjects]
    intro present
    refine (placed.bounded ?_).trans same.idGenerator
    exact present.imp_right (Or.imp_right (Or.imp_right same.dropped))
  case dirtyUpdated =>
    rw [same.dirty, same.updated]
    exact placed.dirtyUpdated
  case unstoredUnconnected =>
    rw [same.unstored, same.updated]
    exact placed.unstoredUnconnected
  case containeredUpdated =>
    rw [same.containered, same.updated]
    exact placed.containeredUpdated
  case updatedContainered =>
    rw [same.containered, same.updated]
    exact placed.updatedContainered
  case tracked =>
    rw [same.live, same.ephem, same.unstored, same.updated]
    exact placed.tracked
  case dropped =>
    rw [same.destroyed]
    exact fun waiting => placed.dropped (same.dropped waiting)
  case named => exact same.named placed.named

end

variable {manager : StorageManager} {id other : Nat}

theorem setEntity_samePlace (different : other ≠ id) (entity : LocatedEntity) :
    SamePlace manager (manager.setEntity id entity) other := by
  have same := manager.setEntity_entity_of_ne entity different
  constructor
  case named =>
    rw [same]
    exact fun named => named
  case dropped => exact fun waiting => waiting
  case idGenerator => exact le_rfl
  all_goals first | rfl | rw [same]

variable {entity : LocatedEntity} {guarded : Prop}

theorem setEntity_samePlace_self (destroyed : entity.isDestroyed = (manager.entity id).isDestroyed)
    (queued : entity.hasFlags entityQueued = (manager.entity id).hasFlags entityQueued)
    (ephem : entity.hasFlags entityEphem = (manager.entity id).hasFlags entityEphem)
    (named : (manager.entity id).ModifiersNamed → entity.ModifiersNamed) :
    SamePlace manager (manager.setEntity id entity) id := by
  have self := manager.setEntity_entity_self id entity
  constructor
  case destroyed => rw [self, destroyed]
  case queued => rw [self, queued]
  case ephem => rw [self, ephem]
  case named =>
    rw [self]
    exact named
  case dropped => exact fun waiting => waiting
  case idGenerator => exact le_rfl
  all_goals rfl

theorem markStored_named {wanted : SoftProperty → Bool} (named : entity.ModifiersNamed) :
    (markStored wanted entity).ModifiersNamed := by
  intro name entry found active
  simp only [markStored, Std.TreeMap.getElem?_map, Option.map_eq_some_iff] at found
  obtain ⟨old, foundOld, rfl⟩ := found
  exact named name old foundOld active

namespace Queues

section

variable (queues : Queues manager)

include queues

theorem unstored_not_dirty (waiting : id ∈ manager.unstoredEntities) :
    id ∉ manager.dirtyEntities := fun dirty =>
  (queues.placed id).unstoredUnconnected waiting ((queues.placed id).dirtyUpdated dirty)

theorem live_of_updated (connected : id ∈ manager.updated)
    (alive : (manager.entity id).isDestroyed = false) : manager.Live id := by
  refine ⟨?_, alive⟩
  rcases (queues.placed id).known (.inr connected) with registered | destroyed
  · exact registered
  · rw [alive] at destroyed
    contradiction

variable {entity : LocatedEntity} {rest : List Nat}

theorem setEntity (destroyed : entity.isDestroyed = (manager.entity id).isDestroyed)
    (queued : entity.hasFlags entityQueued = (manager.entity id).hasFlags entityQueued)
    (ephem : entity.hasFlags entityEphem = (manager.entity id).hasFlags entityEphem)
    (named : (manager.entity id).ModifiersNamed → entity.ModifiersNamed)
    (top : id = baseId → entity.parent = none) : Queues (manager.setEntity id entity) := by
  have same : ∀ other, SamePlace manager (manager.setEntity id entity) other := by
    intro other
    by_cases isId : other = id
    · rw [isId]
      exact setEntity_samePlace_self destroyed queued ephem named
    · exact setEntity_samePlace isId entity
  refine ⟨fun other => (queues.placed other).congr (same other), queues.unstoredNodup,
    queues.dirtyNodup, (same baseId).live.mpr queues.baseLive, queues.baseUpdated, ?_⟩
  by_cases isId : baseId = id
  · rw [parentOf, isId, setEntity_entity_self]
    exact top isId.symm
  · rw [parentOf, manager.setEntity_entity_of_ne entity isId]
    exact queues.baseTop

variable {after : StorageManager}

theorem of_single (id : Nat)
    (others : ∀ other, other ≠ id → SamePlace manager after other) (placed : after.Placed id)
    (unstoredNodup : after.unstoredEntities.Nodup) (dirtyNodup : after.dirtyEntities.Nodup)
    (base : id = baseId → after.Live id ∧ id ∈ after.updated) (top : after.parentOf baseId = none) :
    Queues after := by
  have baseFacts : after.Live baseId ∧ baseId ∈ after.updated := by
    by_cases isId : id = baseId
    · exact isId ▸ base isId
    · have same := others baseId (Ne.symm isId)
      exact ⟨same.live.mpr queues.baseLive, same.updated.mpr queues.baseUpdated⟩
  refine ⟨?_, unstoredNodup, dirtyNodup, baseFacts.1, baseFacts.2, top⟩
  intro other
  by_cases isId : other = id
  · exact isId ▸ placed
  · exact (queues.placed other).congr (others other isId)

theorem entityUpdated (connected : id ∈ manager.updated) : Queues (manager.entityUpdated id) := by
  have placed := queues.placed id
  have top := manager.entityUpdated_parentOf id baseId
  rw [queues.baseTop] at top
  obtain ⟨destroyed, same⟩ | ⟨_, _, same⟩ | ⟨alive, unqueued, same⟩ :=
    manager.entityUpdated_cases id
  · rw [same] at top ⊢
    refine queues.of_single id ?_ { placed with
        dropped := fun _ => destroyed
        bounded := fun _ => placed.bounded (.inr (.inr (.inl connected))) }
      queues.unstoredNodup queues.dirtyNodup ?_ top
    · intro other different
      constructor
      case dropped => simp [different]
      case named => exact fun named => named
      case idGenerator => exact le_rfl
      all_goals rfl
    · rintro rfl
      exact ⟨queues.baseLive, queues.baseUpdated⟩
  · rw [same]
    exact queues
  · -- The entity is in neither queue, as its flag is not set.
    have live := queues.live_of_updated connected alive
    have absent := (placed.queued live).not.mp (by simp [unqueued])
    rw [not_or] at absent
    rw [same] at top ⊢
    refine queues.of_single id ?_ ?_ queues.unstoredNodup ?_ ?_ top
    · intro other different
      have kept : SamePlace manager _ other :=
        setEntity_samePlace different ((manager.entity id).addFlags entityQueued)
      exact { kept with dirty := by simp [different] }
    · have queued : ((manager.entity id).addFlags entityQueued).hasFlags entityQueued = true :=
        Flags.hasFlags_addFlags_of_subset _ (by decide)
      constructor
      case queued => simp [queued]
      case known => exact fun _ => .inl live.1
      case bounded => exact placed.bounded
      case dirtyUpdated => exact fun _ => connected
      case unstoredUnconnected => exact placed.unstoredUnconnected
      case containeredUpdated => exact placed.containeredUpdated
      case updatedContainered => exact placed.updatedContainered
      case tracked => exact fun _ _ => .inr connected
      case dropped =>
        intro waiting
        exact absurd (placed.dropped waiting) (by simp [alive])
      case named =>
        rw [modify_entity_self]
        exact placed.named
    · rw [nodup_append]
      refine ⟨queues.dirtyNodup, nodup_singleton id, ?_⟩
      rintro earlier waiting _ new rfl
      exact absent.2 (List.mem_singleton.mp new ▸ waiting)
    · intro _
      refine ⟨⟨live.1, ?_⟩, connected⟩
      rw [modify_entity_self]
      exact (addFlags_isDestroyed _ (by decide)).trans alive

theorem enroll (loc : Nat) (fresh : manager.idGenerator < id)
    (created : Created manager.types entity) :
    Queues (manager.enroll id loc entity) := by
  have placed := queues.placed id
  have unknown : ¬ (id ∈ manager.eobjects ∨ id ∈ manager.unstoredEntities ∨
      id ∈ manager.updated ∨ id ∈ manager.destroyedEntities) := fun present =>
    absurd (placed.bounded present) (by omega)
  simp only [not_or] at unknown
  obtain ⟨unregistered, notWaiting, unconnected, notDropped⟩ := unknown
  have notDirty : id ∉ manager.dirtyEntities := fun member =>
    unconnected (placed.dirtyUpdated member)
  have notContainered : id ∉ manager.containered := fun member =>
    unconnected (placed.containeredUpdated member)
  have notBase : baseId ≠ id := by
    rintro rfl
    exact unconnected queues.baseUpdated
  have top : ∀ entity, ((manager.accept id).setEntity id entity).parentOf baseId = none := by
    intro entity
    rw [parentOf, setEntity_entity_of_ne _ _ notBase]
    exact queues.baseTop
  have others : ∀ entity, ∀ other, other ≠ id →
      SamePlace manager ((manager.accept id).setEntity id entity) other := by
    intro entity other different
    have same := (manager.accept id).setEntity_entity_of_ne entity different
    have kept : SamePlace (manager.accept id) _ other := setEntity_samePlace different entity
    refine { kept with eobjects := ?_, idGenerator := fresh.le }
    exact Finset.mem_insert.trans (or_iff_right different)
  have alive : { entity with parent := some loc }.applyLocation.isDestroyed = false :=
    (applyLocation_hasFlags _ (by decide)).trans created.alive
  have named : { entity with parent := some loc }.applyLocation.ModifiersNamed :=
    applyLocation_named created.named
  obtain ⟨ephem, same⟩ | ⟨persistent, same⟩ := manager.enroll_cases id loc created.unclean
  · rw [same]
    refine queues.of_single id (others _) ?_ queues.unstoredNodup queues.dirtyNodup
      (fun isBase => absurd isBase.symm notBase) (top _)
    have unqueued : { entity with parent := some loc }.applyLocation.hasFlags entityQueued =
        false := (applyLocation_hasFlags _ (by decide)).trans created.unqueued
    have stillEphem : { entity with parent := some loc }.applyLocation.hasFlags entityEphem =
        true := (applyLocation_hasFlags _ (by decide)).trans ephem
    constructor
    case queued =>
      intro _
      rw [setEntity_entity_self, unqueued]
      simp [accept, StorageManager.setEntity, notWaiting, notDirty]
    case known =>
      rintro (waiting | connected)
      · exact absurd waiting notWaiting
      · exact absurd connected unconnected
    case bounded => exact fun _ => le_rfl
    case dirtyUpdated => exact fun dirty => absurd dirty notDirty
    case unstoredUnconnected => exact fun waiting => absurd waiting notWaiting
    case containeredUpdated => exact fun member => absurd member notContainered
    case updatedContainered => exact fun connected => absurd connected unconnected
    case tracked =>
      intro _ persistent
      rw [setEntity_entity_self, stillEphem] at persistent
      contradiction
    case dropped => exact fun waiting => absurd waiting notDropped
    case named =>
      rw [setEntity_entity_self]
      exact named
  · rw [same]
    refine queues.of_single id ?_ ?_ ?_ queues.dirtyNodup
      (fun isBase => absurd isBase.symm notBase) (top _)
    · intro other different
      exact { others _ other different with unstored := by simp [different] }
    · constructor
      case queued =>
        intro _
        rw [setEntity_entity_self]
        have queued : ({ entity with parent := some loc }.applyLocation.addFlags
            entityQueued).hasFlags entityQueued = true :=
          Flags.hasFlags_addFlags_of_subset _ (by decide)
        simp [queued]
      case known => exact fun _ => .inl (Finset.mem_insert_self ..)
      case bounded => exact fun _ => le_rfl
      case dirtyUpdated => exact fun dirty => absurd dirty notDirty
      case unstoredUnconnected => exact fun _ => unconnected
      case containeredUpdated => exact fun member => absurd member notContainered
      case updatedContainered => exact fun connected => absurd connected unconnected
      case tracked => exact fun _ _ => .inl (by simp)
      case dropped => exact fun waiting => absurd waiting notDropped
      case named =>
        rw [setEntity_entity_self]
        exact named
    · rw [nodup_append]
      refine ⟨queues.unstoredNodup, nodup_singleton id, ?_⟩
      rintro earlier waiting _ new rfl
      exact notWaiting (List.mem_singleton.mp new ▸ waiting)

theorem of_unchanged (entity : after.entity = manager.entity)
    (eobjects : after.eobjects = manager.eobjects) (updated : after.updated = manager.updated)
    (containered : after.containered = manager.containered)
    (unstored : after.unstoredEntities = manager.unstoredEntities)
    (dirty : after.dirtyEntities = manager.dirtyEntities)
    (dropped : ∀ id ∈ after.destroyedEntities, id ∈ manager.destroyedEntities)
    (idGenerator : after.idGenerator = manager.idGenerator) : Queues after := by
  have same : ∀ id, SamePlace manager after id := by
    intro id
    constructor
    case named =>
      rw [entity]
      exact fun named => named
    case dropped => exact dropped id
    case idGenerator => exact idGenerator.ge
    all_goals simp only [entity, eobjects, updated, containered, unstored, dirty]
  refine ⟨fun id => (queues.placed id).congr (same id), ?_, ?_, (same baseId).live.mpr
    queues.baseLive, (same baseId).updated.mpr queues.baseUpdated, ?_⟩
  · rw [unstored]
    exact queues.unstoredNodup
  · rw [dirty]
    exact queues.dirtyNodup
  · rw [parentOf, entity]
    exact queues.baseTop

theorem dropFront (front : manager.destroyedEntities = id :: rest) :
    Queues (manager.dropFront id) := by
  refine queues.of_unchanged rfl rfl rfl rfl rfl rfl ?_ rfl
  intro other waiting
  rw [front]
  simp only [StorageManager.dropFront, front, tail_cons] at waiting
  exact List.mem_cons_of_mem id waiting

theorem complete (queries : Nat) : Queues (manager.complete queries) :=
  queues.of_unchanged rfl rfl rfl rfl rfl rfl (fun _ waiting => waiting) rfl

theorem schedule (commands : List Command) : Queues (manager.schedule commands) :=
  queues.of_unchanged rfl rfl rfl rfl rfl rfl (fun _ waiting => waiting) rfl

theorem storeFront (front : manager.unstoredEntities = id :: rest) :
    Queues (manager.storeFront id) := by
  have placed := queues.placed id
  have nodup := queues.unstoredNodup
  rw [front, nodup_cons] at nodup
  have waiting : id ∈ manager.unstoredEntities := by simp [front]
  have notDirty := queues.unstored_not_dirty waiting
  have notBase : baseId ≠ id := by
    rintro rfl
    exact placed.unstoredUnconnected waiting queues.baseUpdated
  have later : ∀ other, other ≠ id → (other ∈ rest ↔ other ∈ manager.unstoredEntities) := by
    intro other different
    simp [front, different]
  unfold StorageManager.storeFront
  rw [front, tail_cons]
  split
  next destroyed =>
    refine queues.of_single id ?_ ?_ nodup.2 queues.dirtyNodup
      (fun isBase => absurd isBase.symm notBase) queues.baseTop
    · intro other different
      constructor
      case unstored => exact later other different
      case dropped => exact fun waiting => waiting
      case named => exact fun named => named
      case idGenerator => exact le_rfl
      all_goals rfl
    · have dead : ¬ manager.Live id := fun live => by
        rw [live.2] at destroyed
        contradiction
      exact { placed with
        queued := fun live => absurd live dead
        known := fun _ => .inr destroyed
        bounded := fun _ => placed.bounded (.inr (.inl waiting))
        unstoredUnconnected := fun _ => placed.unstoredUnconnected waiting
        tracked := fun live => absurd live dead }
  next alive =>
    rw [Bool.not_eq_true] at alive
    have registered : id ∈ manager.eobjects := by
      rcases placed.known (.inl waiting) with registered | destroyed
      · exact registered
      · rw [alive] at destroyed
        contradiction
    have unqueued : (insertedEntity (manager.entity id)).hasFlags entityQueued = false :=
      (Flags.hasFlags_addFlags_of_disjoint _ (by decide)).trans
        (Flags.hasFlags_removeFlags_of_subset _ (by decide))
    refine queues.of_single id ?_ ?_ nodup.2 queues.dirtyNodup
      (fun isBase => absurd isBase.symm notBase) ?_
    · intro other different
      have kept : SamePlace manager _ other :=
        setEntity_samePlace different (insertedEntity (manager.entity id))
      exact { kept with
        updated := Finset.mem_insert.trans (or_iff_right different)
        containered := Finset.mem_insert.trans (or_iff_right different)
        unstored := later other different }
    · have connected : id ∈ insert id manager.updated := Finset.mem_insert_self ..
      constructor
      case queued =>
        intro _
        refine iff_of_false ?_ ?_
        · simp only [insertEntity, connect, setEntity_entity_self]
          rw [unqueued]
          decide
        · rintro (still | dirty)
          · exact nodup.1 still
          · exact notDirty dirty
      case known => exact fun _ => .inl registered
      case bounded => exact fun _ => placed.bounded (.inl registered)
      case dirtyUpdated => exact fun _ => connected
      case unstoredUnconnected => exact fun still => absurd still nodup.1
      case containeredUpdated => exact fun _ => connected
      case updatedContainered => exact fun _ => .inl (Finset.mem_insert_self ..)
      case tracked => exact fun _ _ => .inr connected
      case dropped =>
        intro dropped
        exact absurd (placed.dropped dropped) (by simp [alive])
      case named =>
        simp only [insertEntity, connect, setEntity_entity_self]
        exact markStored_named placed.named
    · rw [parentOf]
      simp only [insertEntity, connect, setEntity_entity_of_ne _ _ notBase]
      exact queues.baseTop

/-- A changed entity leaves the queue. -/
theorem release (front : manager.dirtyEntities = id :: rest)
    (destroyed : entity.isDestroyed = (manager.entity id).isDestroyed)
    (unqueued : entity.hasFlags entityQueued = false) (named : entity.ModifiersNamed)
    (parent : entity.parent = (manager.entity id).parent) :
    Queues { manager.setEntity id entity with dirtyEntities := rest } := by
  have placed := queues.placed id
  have nodup := queues.dirtyNodup
  rw [front, nodup_cons] at nodup
  have connected := placed.dirtyUpdated (by simp [front])
  have notWaiting : id ∉ manager.unstoredEntities := fun waiting =>
    placed.unstoredUnconnected waiting connected
  have sameDestroyed := congrArg LocatedEntity.isDestroyed (manager.setEntity_entity_self id entity)
  rw [destroyed] at sameDestroyed
  refine queues.of_single id ?_ ?_ queues.unstoredNodup nodup.2 ?_ ?_
  · intro other different
    have kept : SamePlace manager _ other := setEntity_samePlace different entity
    exact { kept with dirty := by simp [front, different] }
  · constructor
    case queued =>
      intro _
      refine iff_of_false ?_ ?_
      · rw [setEntity_entity_self, unqueued]
        decide
      · rintro (waiting | dirty)
        · exact notWaiting waiting
        · exact nodup.1 dirty
    case known =>
      rw [sameDestroyed]
      exact placed.known
    case bounded => exact placed.bounded
    case dirtyUpdated => exact fun _ => connected
    case unstoredUnconnected => exact placed.unstoredUnconnected
    case containeredUpdated => exact placed.containeredUpdated
    case updatedContainered => exact placed.updatedContainered
    case tracked => exact fun _ _ => .inr connected
    case dropped =>
      rw [sameDestroyed]
      exact placed.dropped
    case named =>
      rw [setEntity_entity_self]
      exact named
  · rintro rfl
    exact ⟨⟨queues.baseLive.1, sameDestroyed.trans queues.baseLive.2⟩, connected⟩
  · by_cases isId : baseId = id
    · subst isId
      rw [parentOf, setEntity_entity_self, parent]
      exact queues.baseTop
    · rw [parentOf, setEntity_entity_of_ne _ _ isId]
      exact queues.baseTop

theorem updateFront (front : manager.dirtyEntities = id :: rest) :
    Queues (manager.updateFront id) := by
  have named := (queues.placed id).named
  obtain ⟨_, same⟩ | ⟨_, same⟩ := manager.updateFront_cases id
  · rw [same, front, tail_cons]
    refine queues.release front ?_ ?_ named rfl
    · exact removeFlags_isDestroyed _ (by decide)
    · exact Flags.hasFlags_removeFlags_of_subset _ (by decide)
  · rw [same, front, tail_cons]
    refine (queues.schedule _).release front ?_ ?_ ?_ rfl
    · exact (removeFlags_isDestroyed _ (by decide)).trans (addFlags_isDestroyed _ (by decide))
    · exact Flags.hasFlags_removeFlags_of_subset _ (by decide)
    · exact markStored_named named

theorem condemn (notBase : id ≠ baseId) : Queues (manager.condemn id) := by
  have placed := queues.placed id
  have dead : ¬ (manager.condemn id).Live id := fun live =>
    absurd live.2 (by simp [manager.condemn_isDestroyed id])
  have notId : baseId ≠ id := Ne.symm notBase
  refine queues.of_single id ?_ ?_ queues.unstoredNodup queues.dirtyNodup
    (fun isBase => absurd isBase notBase) ?_
  · exact fun other different => setEntity_samePlace different _
  · exact { placed with
      queued := fun live => absurd live dead
      known := fun _ => .inr (manager.condemn_isDestroyed id)
      tracked := fun live => absurd live dead
      dropped := fun _ => manager.condemn_isDestroyed id
      named := by
        rw [StorageManager.condemn, modify_entity_self]
        exact placed.named }
  · rw [parentOf, StorageManager.condemn, modify_entity_of_ne _ _ notId]
    exact queues.baseTop

theorem forget (destroyed : (manager.entity id).isDestroyed = true) :
    Queues { manager with eobjects := manager.eobjects.erase id } := by
  have placed := queues.placed id
  have notBase : baseId ≠ id := by
    rintro rfl
    rw [queues.baseLive.2] at destroyed
    contradiction
  have dead : ¬ manager.Live id := fun live => by
    rw [live.2] at destroyed
    contradiction
  refine queues.of_single id ?_ ?_ queues.unstoredNodup queues.dirtyNodup
    (fun isBase => absurd isBase.symm notBase) queues.baseTop
  · intro other different
    constructor
    case eobjects => simp [different]
    case dropped => exact fun waiting => waiting
    case named => exact fun named => named
    case idGenerator => exact le_rfl
    all_goals rfl
  · have unregistered : id ∉ manager.eobjects.erase id := notMem_erase id _
    exact { placed with
      queued := fun live => absurd live.1 unregistered
      known := fun _ => .inr destroyed
      bounded := fun present => placed.bounded
        (present.imp_left fun member => absurd member unregistered)
      tracked := fun live => absurd live.1 unregistered }

theorem touch {unsent : Bool} (touched : (manager.entity id).Touched unsent entity) :
    Queues (manager.setEntity id entity) := by
  refine queues.setEntity ?_ ?_ ?_ touched.named ?_
  · exact touched.flags entityDestroyed (by decide)
  · exact touched.flags entityQueued (by decide)
  · exact touched.flags entityEphem (by decide)
  · rintro rfl
    exact touched.parent.trans queues.baseTop

theorem onUpdated (id : Nat) : Queues (manager.onUpdated id) := by
  unfold StorageManager.onUpdated
  split
  next connected => exact queues.entityUpdated connected
  · exact queues

theorem hang (loc : Nat) (notBase : id ≠ baseId) : Queues (manager.hang id loc) := by
  have moved : Queues (manager.modify id fun entity =>
      { entity with parent := some loc }.applyLocation) := by
    refine queues.setEntity ?_ ?_ ?_ ?_ fun isBase => absurd isBase notBase
    · exact applyLocation_hasFlags _ (by decide)
    · exact applyLocation_hasFlags _ (by decide)
    · exact applyLocation_hasFlags _ (by decide)
    · exact fun named => applyLocation_named named
  unfold StorageManager.hang StorageManager.onContainered
  split
  next connected => exact moved.entityUpdated ((moved.placed id).containeredUpdated connected)
  · exact moved

theorem change {guarded : Prop} {after : StorageManager} (change : Change guarded manager after) :
    Queues after := by
  cases change with
  | request live requested => exact queues.touch requested.touched
  | @broadcast id live =>
    have touched := queues.touch (LocatedEntity.updateProperties_touched (manager.entity id))
    unfold StorageManager.updateProperties
    dsimp only
    split
    · exact touched.onUpdated _
    · exact touched
  | notify connected => exact queues.entityUpdated connected
  | hang loc registered notBase movable => exact queues.hang loc notBase
  | disturb =>
    refine queues.setEntity ?_ ?_ ?_ (fun named => named) ?_
    · exact removeFlags_isDestroyed _ (by decide)
    · exact Flags.hasFlags_removeFlags_of_disjoint _ (by decide)
    · exact Flags.hasFlags_removeFlags_of_disjoint _ (by decide)
    · rintro rfl
      exact queues.baseTop
  | enroll loc fresh created => exact queues.enroll loc fresh created
  | detach destroyed =>
    exact queues.setEntity rfl rfl rfl (fun named => named) fun _ => rfl
  | drop front => exact queues.dropFront front
  | store front => exact queues.storeFront front
  | update front => exact queues.updateFront front
  | complete queries => exact queues.complete queries

theorem changes {guarded : Prop} {after : StorageManager}
    (changes : Changes guarded manager after) : Queues after := by
  induction changes with
  | refl => exact queues
  | tail _ last ih => exact ih.change last

end

end Queues

section

variable (manager)

theorem setEntity_isDestroyed {id : Nat}
    (kept : entity.isDestroyed = (manager.entity id).isDestroyed) (other : Nat) :
    ((manager.setEntity id entity).entity other).isDestroyed =
      (manager.entity other).isDestroyed := by
  by_cases same : other = id
  · rw [same, setEntity_entity_self, kept]
  · rw [setEntity_entity_of_ne _ _ same]

theorem storeFront_isDestroyed (id other : Nat) :
    ((manager.storeFront id).entity other).isDestroyed = (manager.entity other).isDestroyed := by
  unfold storeFront
  dsimp only
  split
  · rfl
  · refine manager.setEntity_isDestroyed ?_ other
    exact (addFlags_isDestroyed _ (by decide)).trans (removeFlags_isDestroyed _ (by decide))

theorem updateFront_isDestroyed (id other : Nat) :
    ((manager.updateFront id).entity other).isDestroyed = (manager.entity other).isDestroyed := by
  obtain ⟨_, same⟩ | ⟨_, same⟩ := manager.updateFront_cases id
  · rw [same]
    exact manager.setEntity_isDestroyed (removeFlags_isDestroyed _ (by decide)) other
  · rw [same]
    refine manager.setEntity_isDestroyed ?_ other
    exact (removeFlags_isDestroyed _ (by decide)).trans (addFlags_isDestroyed _ (by decide))

end

section

variable {after : StorageManager} (change : Change guarded manager after)

include change

theorem Change.isDestroyed (known : other ≤ manager.idGenerator) :
    (after.entity other).isDestroyed = (manager.entity other).isDestroyed := by
  cases change with
  | request live requested =>
    exact manager.setEntity_isDestroyed (requested.touched.flags entityDestroyed (by decide)) other
  | @broadcast id live =>
    have touched := LocatedEntity.updateProperties_touched (manager.entity id)
    have kept := manager.setEntity_isDestroyed (touched.flags entityDestroyed (by decide)) other
    unfold StorageManager.updateProperties
    dsimp only
    split
    · exact ((onUpdated_frame _ id).destroyed other).trans kept
    · exact kept
  | notify connected => exact (entityUpdated_frame manager _).destroyed other
  | hang loc registered notBase movable => exact (hang_frame manager _ loc).destroyed other
  | disturb => exact (disturb_frame manager _).destroyed other
  | @enroll id loc entity fresh created =>
    have different : other ≠ id := by omega
    obtain ⟨_, same⟩ | ⟨_, same⟩ := manager.enroll_cases id loc created.unclean
    · rw [same, setEntity_entity_of_ne _ _ different]
      rfl
    · rw [same, setEntity_entity_of_ne _ _ different]
      rfl
  | @detach id destroyed => exact (manager.modify_frame id rfl).destroyed other
  | drop front => rfl
  | @store id rest front => exact manager.storeFront_isDestroyed id other
  | @update id rest front => exact manager.updateFront_isDestroyed id other
  | complete queries => rfl

/-- Only new entities are registered. -/
theorem Change.eobjects (registered : other ∈ after.eobjects) :
    other ∈ manager.eobjects ∨ (after.entity other).isDestroyed = false := by
  cases change with
  | request live requested => exact .inl registered
  | @broadcast id live =>
    unfold StorageManager.updateProperties at registered
    dsimp only at registered
    split at registered
    · rw [(onUpdated_frame _ id).eobjects] at registered
      exact .inl registered
    · exact .inl registered
  | notify connected =>
    rw [(entityUpdated_frame manager _).eobjects] at registered
    exact .inl registered
  | hang loc _ notBase movable =>
    rw [(hang_frame manager _ loc).eobjects] at registered
    exact .inl registered
  | disturb => exact .inl registered
  | @enroll id loc entity fresh created =>
    have alive : { entity with parent := some loc }.applyLocation.isDestroyed = false :=
      (applyLocation_hasFlags _ (by decide)).trans created.alive
    obtain ⟨_, same⟩ | ⟨_, same⟩ := manager.enroll_cases id loc created.unclean
    · rw [same] at registered ⊢
      rcases Finset.mem_insert.mp registered with rfl | old
      · rw [setEntity_entity_self]
        exact .inr alive
      · exact .inl old
    · rw [same] at registered ⊢
      rcases Finset.mem_insert.mp registered with rfl | old
      · rw [setEntity_entity_self]
        exact .inr ((addFlags_isDestroyed _ (by decide)).trans alive)
      · exact .inl old
  | detach destroyed => exact .inl registered
  | drop front => exact .inl registered
  | @store id rest front =>
    unfold storeFront at registered
    dsimp only at registered
    split at registered <;> exact .inl registered
  | @update id rest front =>
    obtain ⟨_, same⟩ | ⟨_, same⟩ := manager.updateFront_cases id
    · rw [same] at registered
      exact .inl registered
    · rw [same] at registered
      exact .inl registered
  | complete queries => exact .inl registered

end

/-- Destroyed entities are spared ones. -/
def Alive (manager : StorageManager) (spared : Nat → Prop) : Prop :=
  ∀ id ∈ manager.eobjects, (manager.entity id).isDestroyed = true → spared id

variable {spared : Nat → Prop}

theorem Alive.change {after : StorageManager} (alive : manager.Alive spared)
    (queues : Queues manager) (change : Change guarded manager after) : after.Alive spared := by
  intro other registered destroyed
  rcases change.eobjects registered with old | new
  · rw [change.isDestroyed ((queues.placed other).bounded (.inl old))] at destroyed
    exact alive other old destroyed
  · rw [new] at destroyed
    contradiction

/-- What an action moves is movable. -/
def MovesMovable (manager : StorageManager) : Action → Prop
  | .move id _ => manager.Movable id
  | .delete id _ => ∀ child ∈ manager.contains id, manager.Movable child
  | _ => True

/-- An action is made of changes. -/
theorem step_changes (guarded : Prop) (queues : Queues manager)
    (alive : manager.Alive fun _ => False) (action : Action)
    (movable : guarded → manager.MovesMovable action) :
    Changes guarded manager (manager.step action) ∨
    ∃ id leaving, action = .delete id leaving ∧ id ∈ manager.eobjects ∧ id ≠ baseId ∧
      ∃ state, Changes guarded (manager.condemn id) state ∧ Frame (manager.condemn id) state ∧
        manager.step action = { state.onUpdated id with eobjects := state.eobjects.erase id } := by
  have live : ∀ id ∈ manager.eobjects, manager.Live id := by
    intro id registered
    refine ⟨registered, ?_⟩
    rw [Bool.eq_false_iff]
    exact alive id registered
  cases action with
  | insert id type loc attributes ephem =>
    refine .inl (manager.addNewEntity_changes guarded id type loc attributes ephem ?_ ?_)
    · exact fun other registered => (queues.placed other).bounded (.inl registered)
    · intro other connected
      have placed := queues.placed other
      exact placed.bounded (.inr (.inr (.inl (placed.containeredUpdated connected))))
  | set id attributes =>
    left
    unfold step ifRegistered
    dsimp only
    split
    next registered =>
      exact .single (.request (live id registered) (LocatedEntity.setOperation_requested _ _))
    · exact .refl
  | addModifier id name modifier affecting =>
    left
    unfold step ifRegistered
    dsimp only
    split
    next registered =>
      exact .single (.request (live id registered) (LocatedEntity.addModifier_requested _ _ _ _))
    · exact .refl
  | removeModifier id name modifier =>
    left
    unfold step ifRegistered
    dsimp only
    split
    next registered =>
      exact .single (.request (live id registered)
        (LocatedEntity.removeModifier_requested (queues.placed id).named _ _))
    · exact .refl
  | update id =>
    left
    unfold step ifRegistered
    dsimp only
    split
    next registered => exact .single (.broadcast (live id registered))
    · exact .refl
  | notify id =>
    left
    unfold step ifRegistered
    dsimp only
    split
    · exact manager.onUpdated_changes guarded id
    · exact .refl
  | move id loc =>
    left
    unfold step ifRegistered
    dsimp only
    split
    next registered =>
      by_cases isBase : id = baseId
      · -- The base entity has no parent, and stays where it is.
        obtain stays | ⟨_, isParent, _⟩ | ⟨_, _, isParent, _⟩ :=
          manager.moveOurselves_cases id (some loc)
        · rw [stays]
          exact .refl
        · simp [isBase, queues.baseTop] at isParent
        · simp [isBase, queues.baseTop] at isParent
      · exact manager.moveOurselves_changes guarded id (some loc) registered isBase movable
    · exact .refl
  | delete id leaving =>
    unfold step ifRegistered
    dsimp only
    split
    next registered =>
      by_cases isBase : id = baseId
      · left
        rw [delEntity, if_pos isBase]
        exact .refl
      · obtain ⟨state, changes, frame, same⟩ := manager.delEntity_changes guarded id isBase
          queues.baseTop movable
        exact .inr ⟨id, leaving, rfl, registered, isBase, state, changes, frame, same⟩
    · exact .inl .refl
  | tick completed => exact .inl (manager.tick_changes guarded completed)

theorem Alive.changes {after : StorageManager} (alive : manager.Alive spared)
    (queues : Queues manager) (changes : Changes guarded manager after) : after.Alive spared := by
  induction changes with
  | refl => exact alive
  | tail earlier last ih => exact ih.change (queues.changes earlier) last

/-- All registered ones are alive. -/
structure Settled (manager : StorageManager) : Prop where
  queues : Queues manager
  alive : manager.Alive fun _ => False

theorem Alive.condemn (alive : manager.Alive fun _ => False) (id : Nat) :
    (manager.condemn id).Alive (· = id) := by
  intro other registered destroyed
  by_contra different
  rw [StorageManager.condemn, modify_entity_of_ne _ _ different] at destroyed
  exact alive other registered destroyed

theorem Settled.step (settled : Settled manager) (action : Action) :
    Settled (manager.step action) := by
  obtain changes | ⟨id, leaving, _, registered, notBase, state, changes, frame, same⟩ :=
    step_changes False settled.queues settled.alive action (fun absurd => absurd.elim)
  · exact ⟨settled.queues.changes changes, settled.alive.changes settled.queues changes⟩
  · have condemned := settled.queues.condemn notBase
    have destroyed : ((state.onUpdated id).entity id).isDestroyed = true := by
      rw [(onUpdated_frame state id).destroyed, frame.destroyed]
      exact manager.condemn_isDestroyed id
    have alive := (settled.alive.condemn id).changes condemned
      (changes.trans (state.onUpdated_changes False id))
    have queues := ((condemned.changes changes).onUpdated id).forget destroyed
    rw [(onUpdated_frame state id).eobjects] at queues
    rw [same]
    refine ⟨queues, ?_⟩
    intro other registered destroyed
    obtain ⟨different, member⟩ := Finset.mem_erase.mp registered
    rw [← (onUpdated_frame state id).eobjects] at member
    exact different (alive other member destroyed)

/-- The base is empty, without rows. -/
def NothingStored (database : Database) : Prop :=
  database.selectEntities baseId = [] ∧ database.selectProperties baseId = []

theorem rowsBelow_of_nothingStored {database : Database} (nothing : NothingStored database)
    (bound : Nat) : rowsBelow database bound baseId = [] := by
  cases bound with
  | zero => rfl
  | succ bound => rw [rowsBelow, nothing.1, flatMap_nil]

variable (types : Inheritance) (accounts : Nat)

theorem start_of_nothingStored {commands : List Command}
    (nothing : NothingStored (run Database.exec Database.initial commands)) :
    start types accounts commands = (create types accounts commands).initWorld := by
  have noRows : rowsBelow (create types accounts commands).database
      (create types accounts commands).database.entities.length baseId = [] :=
    rowsBelow_of_nothingStored nothing _
  have noProperties : (create types accounts commands).database.selectProperties baseId = [] :=
    nothing.2
  rw [start, restoreWorld, noRows]
  simp only [map_nil, run_cons, run_nil, restoreProperties, noProperties, foldl_nil]
  simp [modify, setEntity]

theorem initWorld_settled (commands : List Command) :
    Settled (create types accounts commands).initWorld := by
  have fresh : ∀ id, ((create types accounts commands).initWorld.entity id).isDestroyed = false ∧
      ((create types accounts commands).initWorld.entity id).hasFlags entityQueued = false ∧
      ((create types accounts commands).initWorld.entity id).ModifiersNamed ∧
      ((create types accounts commands).initWorld.entity id).parent = none := by
    intro id
    have created := create_created id types "world"
    by_cases isBase : id = baseId
    · subst isBase
      refine ⟨?_, ?_, ?_, ?_⟩ <;> simp only [initWorld, modify_entity_self]
      · exact (addFlags_isDestroyed _ (by decide)).trans created.alive
      · exact (Flags.hasFlags_addFlags_of_disjoint _ (by decide)).trans created.unqueued
      · exact created.named
      · rfl
    · simp only [initWorld, modify_entity_of_ne _ _ isBase]
      exact ⟨created.alive, created.unqueued, created.named, rfl⟩
  refine ⟨⟨?_, nodup_nil, nodup_nil, ?_, ?_, (fresh baseId).2.2.2⟩, ?_⟩
  · intro id
    have only : ∀ member : Nat, member ∈ ({baseId} : Finset Nat) → member = baseId :=
      fun _ => Finset.mem_singleton.mp
    constructor
    case queued =>
      intro _
      rw [(fresh id).2.1]
      simp [initWorld, create, modify, setEntity]
    case known =>
      rintro (waiting | connected)
      · exact absurd waiting not_mem_nil
      · exact .inl connected
    case bounded =>
      rintro (registered | waiting | connected | dropped)
      · rw [only id registered]
        exact Nat.zero_le _
      · exact absurd waiting not_mem_nil
      · rw [only id connected]
        exact Nat.zero_le _
      · exact absurd dropped not_mem_nil
    case dirtyUpdated => exact fun dirty => absurd dirty not_mem_nil
    case unstoredUnconnected => exact fun waiting => absurd waiting not_mem_nil
    case containeredUpdated => exact fun member => absurd member (notMem_empty id)
    case updatedContainered => exact fun connected => .inr (only id connected)
    case tracked => exact fun live _ => .inr live.1
    case dropped => exact fun waiting => absurd waiting not_mem_nil
    case named => exact (fresh id).2.2.1
  · exact ⟨Finset.mem_singleton_self baseId, (fresh baseId).1⟩
  · exact Finset.mem_singleton_self baseId
  · intro id _ destroyed
    rw [(fresh id).1] at destroyed
    contradiction

/-- What waits is flagged, once; what persists waits or is watched. -/
def WaitsOnce (manager : StorageManager) : Prop :=
  (manager.unstoredEntities ++ manager.dirtyEntities).Nodup ∧ ∀ id ∈ manager.eobjects,
    (manager.entity id).isDestroyed = false ∧ id ≤ manager.idGenerator ∧
      ((manager.entity id).hasFlags entityQueued = true ↔
        id ∈ manager.unstoredEntities ++ manager.dirtyEntities) ∧
      ((manager.entity id).hasFlags entityEphem = false →
        id ∈ manager.unstoredEntities ∨ id ∈ manager.updated)

/-- No change is forgotten, and none waits in two queues. -/
theorem run_waitsOnce (commands : List Command) (actions : List Action) :
    WaitsOnce (run step (create types accounts commands).initWorld actions) := by
  have settled := run_invariant_of_step Settled (fun _ action settled => settled.step action)
    (initWorld_settled types accounts commands) actions
  have queues := settled.queues
  refine ⟨nodup_append'.mpr ⟨queues.unstoredNodup, queues.dirtyNodup, ?_⟩, ?_⟩
  · exact fun id waiting => queues.unstored_not_dirty waiting
  · intro id registered
    have alive : (StorageManager.entity _ id).isDestroyed = false :=
      Bool.eq_false_iff.mpr (settled.alive id registered)
    have placed := queues.placed id
    exact ⟨alive, placed.bounded (.inl registered),
      (placed.queued ⟨registered, alive⟩).trans mem_append.symm, placed.tracked ⟨registered, alive⟩⟩

end Cyphesis.Server.StorageManager
