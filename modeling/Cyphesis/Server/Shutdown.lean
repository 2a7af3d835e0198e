import Cyphesis.Server.Uniqueness

/-!
# Shutting down

A shutdown is one more tick; what its loop has not come to when too many queries are pending is
lost.
-/

namespace Cyphesis.Server

open Cyphesis.Atlas List
open Cyphesis.Common
open Cyphesis.Foundation
open Cyphesis.Rules

variable (commands : List Command)

/-- Parent and sequence number are written. -/
def RowScheduled (id : Nat) (entity : LocatedEntity) : Prop :=
  (∃ type, .insertEntity id entity.parent type entity.seq ∈ commands) ∨
    updateRow id entity ∈ commands

/-- A value of it is written. -/
def ValueScheduled (id : Nat) (name : String) (value : Element) : Prop :=
  (∃ tuples, .insertProperties id tuples ∈ commands ∧ (name, value) ∈ tuples) ∨
    .updateProperty id name value ∈ commands

/-- All that is changed of the entity is written. -/
structure Scheduled (commands : List Command) (id : Nat) (entity : LocatedEntity) : Prop where
  row : RowScheduled commands id entity
  values : ∀ name entry property, entity.properties[name]? = some entry →
    entry.property = some property → isChanged property = true →
    ValueScheduled commands id name (storedValue entity name entry property)

theorem Scheduled.mono {commands more : List Command} {id : Nat} {entity : LocatedEntity}
    (scheduled : Scheduled commands id entity) (subset : commands ⊆ more) :
    Scheduled more id entity where
  row := scheduled.row.imp (Exists.imp fun _ member => subset member) fun member => subset member
  values name entry property found isProperty changed :=
    (scheduled.values name entry property found isProperty changed).imp
      (Exists.imp fun _ => And.imp_left fun member => subset member) fun member => subset member

theorem insertProperties_valueScheduled {id : Nat} {tuples : List (String × Element)}
    {name : String} {value : Element} (member : (name, value) ∈ tuples) :
    ValueScheduled (insertProperties id tuples) id name value := by
  unfold insertProperties
  split
  next empty =>
    rw [List.isEmpty_iff.mp empty] at member
    exact absurd member not_mem_nil
  · exact .inl ⟨tuples, mem_singleton_self _, member⟩

theorem insertCommands_scheduled (id : Nat) (entity : LocatedEntity) :
    Scheduled (insertCommands id entity) id entity where
  row := .inl ⟨_, mem_cons_self⟩
  values name entry property found isProperty changed := by
    have persistent : isPersistent property = true := by
      rw [isChanged, SoftProperty.hasFlags, propFlagPersistenceMask, Flags.hasFlags_or,
        Bool.not_or, Bool.and_eq_true] at changed
      exact changed.2
    have value : ValueScheduled (insertProperties id (propertyTuples isPersistent entity)) id name
        (storedValue entity name entry property) :=
      insertProperties_valueScheduled
        (mem_propertyTuples.mpr ⟨entry, property, found, isProperty, persistent, rfl⟩)
    exact value.imp (Exists.imp fun _ => And.imp_left (mem_cons_of_mem _)) (mem_cons_of_mem _)

theorem updateCommands_scheduled (id : Nat) (entity : LocatedEntity) :
    Scheduled (updateCommands id entity) id entity where
  row := .inr mem_cons_self
  values name entry property found isProperty changed := by
    cases seen : property.hasFlags propFlagPersistenceSeen with
    | true =>
      have member : (name, storedValue entity name entry property) ∈
          propertyTuples isSeen entity :=
        mem_propertyTuples.mpr ⟨entry, property, found, isProperty,
          by rw [isSeen, changed, seen]; rfl, rfl⟩
      refine .inr (mem_cons_of_mem _ (mem_append_right _ ?_))
      exact List.mem_map.mpr ⟨_, member, rfl⟩
    | false =>
      have value : ValueScheduled (insertProperties id (propertyTuples isNew entity)) id name
          (storedValue entity name entry property) :=
        insertProperties_valueScheduled (mem_propertyTuples.mpr
          ⟨entry, property, found, isProperty, by rw [isNew, changed, seen]; rfl, rfl⟩)
      exact value.imp
        (Exists.imp fun _ => And.imp_left fun member =>
          mem_cons_of_mem _ (mem_append_left _ member))
        fun member => mem_cons_of_mem _ (mem_append_left _ member)

/-- Of one entity, not the row of another. -/
def About (id : Nat) : Command → Prop
  | .insertEntity other _ _ _ | .updateEntity other _ _ | .updateEntityWithoutLoc other _
  | .insertProperties other _ | .updateProperty other _ _ | .deleteProperties other
  | .deleteEntity other | .deleteThoughts other => other = id

section

variable (id : Nat) (entity : LocatedEntity)

theorem insertCommands_about : ∀ command ∈ insertCommands id entity, About id command := by
  intro command member
  rcases List.mem_cons.mp member with rfl | member
  · rfl
  · unfold insertProperties at member
    split at member
    · exact absurd member not_mem_nil
    · rw [List.mem_singleton.mp member]
      rfl

theorem updateCommands_about : ∀ command ∈ updateCommands id entity, About id command := by
  intro command member
  rcases List.mem_cons.mp member with rfl | member
  · unfold updateRow
    split <;> rfl
  · rcases List.mem_append.mp member with member | member
    · unfold insertProperties at member
      split at member
      · exact absurd member not_mem_nil
      · rw [List.mem_singleton.mp member]
        rfl
    · obtain ⟨tuple, _, rfl⟩ := List.mem_map.mp member
      rfl

theorem updateRow_about : About id (updateRow id entity) := by
  unfold updateRow
  split <;> rfl

end

variable (entity : LocatedEntity)

/-- How many an update needs. -/
def updateCost : Nat :=
  if entity.flags.hasAll entityCleanMask then 0 else (updateCommands entity.id entity).length

/-- How many an insertion needs. -/
def insertCost : Nat :=
  if entity.isDestroyed then 0 else (insertCommands entity.id entity).length

/-- The entity is alive and has to be updated. -/
def Stale : Prop :=
  entity.isDestroyed = false ∧ entity.flags.hasAll entityCleanMask = false

/-- The loop may go on past it. -/
def Unimpeded (entity : Nat → LocatedEntity) : Nat → List Nat → List Nat → Prop
  | _, [], _ => True
  | pending, id :: rest, completed =>
    (∃ other ∈ id :: rest, Stale (entity other)) →
      pending - completed.headD 0 ≤ StorageManager.maxPendingQueries ∧
      Unimpeded entity (pending - completed.headD 0 + updateCost (entity id)) rest completed.tail

/-- The entities that the loop comes to. -/
def reached (entity : Nat → LocatedEntity) : Nat → List Nat → List Nat → List Nat
  | _, [], _ => []
  | pending, id :: rest, completed =>
    if StorageManager.maxPendingQueries < pending - completed.headD 0 then []
    else id :: reached entity (pending - completed.headD 0 + updateCost (entity id)) rest
      completed.tail

theorem reached_subset (entity : Nat → LocatedEntity) (pending : Nat)
    (waiting completed : List Nat) :
    ∀ id ∈ reached entity pending waiting completed, id ∈ waiting := by
  induction waiting generalizing pending completed with
  | nil => exact fun id member => absurd member not_mem_nil
  | cons first rest ih =>
    intro id member
    unfold reached at member
    split at member
    · exact absurd member not_mem_nil
    · rcases List.mem_cons.mp member with rfl | member
      · exact mem_cons_self
      · exact mem_cons_of_mem first (ih _ _ id member)

variable {waiting : List Nat}

theorem reached_congr {first second : Nat → LocatedEntity}
    (same : ∀ id ∈ waiting, first id = second id) {pending : Nat} {completed : List Nat} :
    reached first pending waiting completed = reached second pending waiting completed := by
  induction waiting generalizing pending completed with
  | nil => rfl
  | cons id rest ih =>
    rw [reached, reached, same id mem_cons_self,
      ih fun other member => same other (mem_cons_of_mem id member)]

theorem unimpeded_iff_reached {entity : Nat → LocatedEntity} (nodup : waiting.Nodup) (pending : Nat)
    (completed : List Nat) :
    Unimpeded entity pending waiting completed ↔
      ∀ id ∈ waiting, Stale (entity id) → id ∈ reached entity pending waiting completed := by
  induction waiting generalizing pending completed with
  | nil => exact iff_of_true trivial fun id member => absurd member not_mem_nil
  | cons first rest ih =>
    rw [nodup_cons] at nodup
    have step := ih nodup.2 (pending - completed.headD 0 + updateCost (entity first)) completed.tail
    constructor
    · intro unimpeded id member stale
      obtain ⟨few, later⟩ := unimpeded ⟨id, member, stale⟩
      rw [reached, if_neg (by omega)]
      rcases List.mem_cons.mp member with rfl | member
      · exact mem_cons_self
      · exact mem_cons_of_mem first (step.mp later id member stale)
    · rintro all ⟨other, member, stale⟩
      have passed : ¬ StorageManager.maxPendingQueries < pending - completed.headD 0 := by
        intro stopped
        have found := all other member stale
        rw [reached, if_pos stopped] at found
        exact not_mem_nil found
      refine ⟨by omega, step.mpr ?_⟩
      intro id isLater isStale
      have found := all id (mem_cons_of_mem first isLater) isStale
      rw [reached, if_neg passed] at found
      refine (List.mem_cons.mp found).resolve_left ?_
      rintro rfl
      exact nodup.1 isLater

theorem updateCommands_length (id : Nat) (entity : LocatedEntity) :
    (updateCommands id entity).length = (updateCommands entity.id entity).length := by
  simp only [updateCommands, insertProperties, length_cons, length_append, length_map]
  split <;> rfl

theorem insertCommands_length (id : Nat) (entity : LocatedEntity) :
    (insertCommands id entity).length = (insertCommands entity.id entity).length := by
  simp only [insertCommands, insertProperties, length_cons]
  split <;> rfl

namespace StorageManager

variable {manager : StorageManager} {id : Nat}

/-- For what waits for insertion. -/
def insertionOf (manager : StorageManager) (id : Nat) : List Command :=
  if (manager.entity id).isDestroyed then [] else insertCommands id (manager.entity id)

/-- Commands for an entity that has changed. -/
def updateOf (manager : StorageManager) (id : Nat) : List Command :=
  if (manager.entity id).flags.hasAll entityCleanMask then []
  else updateCommands id (manager.entity id)

section

variable (manager)

theorem run_dropFront_eq (waiting : List Nat) :
    (run dropFront manager waiting).commands =
        manager.commands ++ waiting.flatMap Database.dropEntity ∧
      (run dropFront manager waiting).pendingQueries = manager.pendingQueries + 3 * waiting.length ∧
      (run dropFront manager waiting).entity = manager.entity ∧
      (run dropFront manager waiting).unstoredEntities = manager.unstoredEntities ∧
      (run dropFront manager waiting).dirtyEntities = manager.dirtyEntities := by
  induction waiting generalizing manager with
  | nil => simp
  | cons id rest ih =>
    obtain ⟨commands, pending, entity, unstored, dirty⟩ := ih (manager.dropFront id)
    rw [run_cons]
    refine ⟨?_, ?_, entity, unstored, dirty⟩
    · rw [commands, flatMap_cons, ← append_assoc]
      rfl
    · rw [pending, length_cons]
      simp only [dropFront, schedule, Database.dropEntity, length_cons, length_nil]
      omega

theorem storeFront_eq (id : Nat) :
    (manager.storeFront id).commands = manager.commands ++ manager.insertionOf id ∧
      (manager.storeFront id).pendingQueries =
        manager.pendingQueries + insertCost (manager.entity id) ∧
      (∀ other, other ≠ id → (manager.storeFront id).entity other = manager.entity other) ∧
      (manager.storeFront id).dirtyEntities = manager.dirtyEntities := by
  unfold storeFront insertionOf insertCost
  dsimp only
  split
  · simp
  · refine ⟨rfl, ?_, ?_, rfl⟩
    · rw [← insertCommands_length id]
      rfl
    · intro other different
      exact setEntity_entity_of_ne _ _ different

theorem run_storeFront_eq (nodup : waiting.Nodup) :
    (run storeFront manager waiting).commands =
        manager.commands ++ waiting.flatMap manager.insertionOf ∧
      (run storeFront manager waiting).pendingQueries =
        manager.pendingQueries + (waiting.map fun id => insertCost (manager.entity id)).sum ∧
      (∀ other, other ∉ waiting →
        (run storeFront manager waiting).entity other = manager.entity other) ∧
      (run storeFront manager waiting).dirtyEntities = manager.dirtyEntities := by
  induction waiting generalizing manager with
  | nil => simp
  | cons id rest ih =>
    rw [nodup_cons] at nodup
    obtain ⟨firstCommands, firstPending, firstEntity, firstDirty⟩ := manager.storeFront_eq id
    obtain ⟨commands, pending, entity, dirty⟩ := ih (manager.storeFront id) nodup.2
    -- The later entities are not touched by the first.
    have unseen : ∀ other ∈ rest, (manager.storeFront id).entity other = manager.entity other := by
      intro other member
      apply firstEntity
      rintro rfl
      exact nodup.1 member
    have sameCommands : rest.flatMap (manager.storeFront id).insertionOf =
        rest.flatMap manager.insertionOf := by
      refine flatMap_congr fun other member => ?_
      rw [insertionOf, insertionOf, unseen other member]
    have sameCosts : (rest.map fun id' => insertCost ((manager.storeFront id).entity id')) =
        rest.map fun id' => insertCost (manager.entity id') :=
      map_congr_left fun other member => by rw [unseen other member]
    rw [run_cons]
    refine ⟨?_, ?_, ?_, dirty.trans firstDirty⟩
    · rw [commands, firstCommands, sameCommands, flatMap_cons, append_assoc]
    · rw [pending, firstPending, sameCosts, map_cons, sum_cons]
      omega
    · intro other absent
      rw [mem_cons, not_or] at absent
      rw [entity other absent.2, firstEntity other absent.1]

theorem updateFront_eq (id : Nat) :
    (manager.updateFront id).commands = manager.commands ++ manager.updateOf id ∧
      (manager.updateFront id).pendingQueries =
        manager.pendingQueries + updateCost (manager.entity id) ∧
      ∀ other, other ≠ id → (manager.updateFront id).entity other = manager.entity other := by
  unfold updateOf updateCost
  obtain ⟨clean, same⟩ | ⟨unclean, same⟩ := manager.updateFront_cases id
  · rw [same, clean]
    refine ⟨(append_nil _).symm, rfl, ?_⟩
    intro other different
    exact setEntity_entity_of_ne _ _ different
  · rw [same, unclean]
    refine ⟨rfl, ?_, ?_⟩
    · rw [if_neg (by decide), ← updateCommands_length id]
      rfl
    · intro other different
      exact setEntity_entity_of_ne _ _ different

theorem updateDirty_commands (nodup : waiting.Nodup)
    (completed : List Nat) :
    (manager.updateDirty waiting completed).commands = manager.commands ++
      (reached manager.entity manager.pendingQueries waiting completed).flatMap
        manager.updateOf := by
  induction waiting generalizing manager completed with
  | nil => simp [updateDirty, reached]
  | cons id rest ih =>
    rw [nodup_cons] at nodup
    unfold updateDirty reached
    dsimp only
    by_cases stopped : maxPendingQueries < manager.pendingQueries - completed.headD 0
    · rw [if_pos (show maxPendingQueries < (manager.complete (completed.headD 0)).pendingQueries
        from stopped), if_pos stopped]
      exact (append_nil _).symm
    · rw [if_neg (show ¬ maxPendingQueries <
        (manager.complete (completed.headD 0)).pendingQueries from stopped), if_neg stopped]
      obtain ⟨commands, pending, entity⟩ :=
        (manager.complete (completed.headD 0)).updateFront_eq id
      have unseen : ∀ other ∈ rest,
          ((manager.complete (completed.headD 0)).updateFront id).entity other =
            manager.entity other := by
        intro other member
        apply entity
        rintro rfl
        exact nodup.1 member
      have sameUpdates : (reached manager.entity
            (manager.pendingQueries - completed.headD 0 + updateCost (manager.entity id)) rest
            completed.tail).flatMap
            ((manager.complete (completed.headD 0)).updateFront id).updateOf =
          (reached manager.entity
            (manager.pendingQueries - completed.headD 0 + updateCost (manager.entity id)) rest
            completed.tail).flatMap manager.updateOf := by
        refine flatMap_congr fun other member => ?_
        rw [updateOf, updateOf, unseen other (reached_subset _ _ _ _ other member)]
      rw [ih _ nodup.2, commands, pending, append_assoc, flatMap_cons, reached_congr unseen]
      exact congrArg (fun updates => manager.commands ++ (manager.updateOf id ++ updates))
        sameUpdates

end

/-- The pending queries when the loop begins. -/
def backlog (manager : StorageManager) : Nat :=
  manager.pendingQueries + 3 * manager.destroyedEntities.length +
    (manager.unstoredEntities.map fun id => insertCost (manager.entity id)).sum

/-- Commands that a shutdown schedules. -/
def shutdownCommands (manager : StorageManager) (completed : List Nat) : List Command :=
  manager.destroyedEntities.flatMap Database.dropEntity ++
    manager.unstoredEntities.flatMap manager.insertionOf ++
    (reached manager.entity manager.backlog manager.dirtyEntities completed).flatMap
      manager.updateOf

theorem shutdown_commands (queues : Queues manager) (completed : List Nat) :
    (manager.shutdown completed).commands =
      manager.commands ++ manager.shutdownCommands completed := by
  obtain ⟨dropCommands, dropPending, dropEntity, dropUnstored, dropDirty⟩ :=
    manager.run_dropFront_eq manager.destroyedEntities
  change (manager.tick completed).commands = _
  unfold tick
  dsimp only
  generalize run dropFront manager manager.destroyedEntities = dropped at *
  rw [dropUnstored]
  obtain ⟨storeCommands, storePending, storeEntity, storeDirty⟩ :=
    dropped.run_storeFront_eq queues.unstoredNodup
  generalize run storeFront dropped manager.unstoredEntities = stored at *
  have dirty : stored.dirtyEntities = manager.dirtyEntities := storeDirty.trans dropDirty
  have unseen : ∀ id ∈ manager.dirtyEntities, stored.entity id = manager.entity id := by
    intro id member
    rw [storeEntity id fun waiting => queues.unstored_not_dirty waiting member, dropEntity]
  have pending : stored.pendingQueries = manager.backlog := by
    rw [storePending, dropPending, dropEntity]
    rfl
  have insertions : manager.unstoredEntities.flatMap dropped.insertionOf =
      manager.unstoredEntities.flatMap manager.insertionOf := by
    refine flatMap_congr fun id _ => ?_
    rw [insertionOf, insertionOf, dropEntity]
  have updates : (reached manager.entity manager.backlog manager.dirtyEntities completed).flatMap
      stored.updateOf = (reached manager.entity manager.backlog manager.dirtyEntities
        completed).flatMap manager.updateOf := by
    refine flatMap_congr fun id member => ?_
    rw [updateOf, updateOf, unseen id (reached_subset _ _ _ _ id member)]
  rw [dirty, stored.updateDirty_commands queues.dirtyNodup, pending, reached_congr unseen,
    updates, storeCommands, insertions, dropCommands]
  simp only [shutdownCommands, append_assoc]

/-- For insertion, or a needed update. -/
def Waiting (manager : StorageManager) (id : Nat) : Prop :=
  (manager.entity id).isDestroyed = false ∧ (id ∈ manager.unstoredEntities ∨
    id ∈ manager.dirtyEntities ∧ (manager.entity id).flags.hasAll entityCleanMask = false)

theorem reached_of_rowScheduled (queues : Queues manager) {completed : List Nat}
    (dirty : id ∈ manager.dirtyEntities)
    (scheduled : RowScheduled (manager.shutdownCommands completed) id (manager.entity id)) :
    id ∈ reached manager.entity manager.backlog manager.dirtyEntities completed := by
  obtain ⟨command, member, about, kind⟩ : ∃ command ∈ manager.shutdownCommands completed,
      About id command ∧ ∀ other, command ∉ Database.dropEntity other := by
    rcases scheduled with ⟨type, member⟩ | member
    · exact ⟨_, member, rfl, fun other => by simp [Database.dropEntity]⟩
    · refine ⟨_, member, updateRow_about id _, fun other => ?_⟩
      unfold updateRow
      split <;> simp [Database.dropEntity]
  have sameId : ∀ other, (∃ found ∈ manager.insertionOf other ++ manager.updateOf other,
      About id found ∧ About other found) → other = id := by
    rintro other ⟨found, _, first, second⟩
    cases found <;> exact Eq.trans (Eq.symm second) first
  rw [shutdownCommands, mem_append, mem_append] at member
  rcases member with (member | member) | member
  · obtain ⟨other, _, dropped⟩ := List.mem_flatMap.mp member
    exact absurd dropped (kind other)
  · obtain ⟨other, waiting, inserted⟩ := List.mem_flatMap.mp member
    have isAbout : About other command := by
      unfold insertionOf at inserted
      split at inserted
      · exact absurd inserted not_mem_nil
      · exact insertCommands_about other _ command inserted
    obtain rfl := sameId other ⟨command, mem_append_left _ inserted, about, isAbout⟩
    exact absurd dirty (queues.unstored_not_dirty waiting)
  · obtain ⟨other, isReached, updated⟩ := List.mem_flatMap.mp member
    have isAbout : About other command := by
      unfold updateOf at updated
      split at updated
      · exact absurd updated not_mem_nil
      · exact updateCommands_about other _ command updated
    obtain rfl := sameId other ⟨command, mem_append_right _ updated, about, isAbout⟩
    exact isReached

/-- At shutdown all that is unsaved is written, just if none of the loops stops early. -/
theorem shutdown_flushes_iff (queues : Queues manager) (completed : List Nat) :
    (∃ scheduled, (manager.shutdown completed).commands = manager.commands ++ scheduled ∧
      ∀ id, manager.Waiting id → Scheduled scheduled id (manager.entity id)) ↔
    Unimpeded manager.entity manager.backlog manager.dirtyEntities completed := by
  rw [unimpeded_iff_reached queues.dirtyNodup]
  constructor
  · rintro ⟨scheduled, same, flushed⟩ id dirty stale
    rw [shutdown_commands queues] at same
    obtain rfl := append_cancel_left same
    exact reached_of_rowScheduled queues dirty (flushed id ⟨stale.1, .inr ⟨dirty, stale.2⟩⟩).row
  · intro all
    refine ⟨_, shutdown_commands queues completed, ?_⟩
    rintro id ⟨alive, waiting | ⟨dirty, unclean⟩⟩
    · refine (insertCommands_scheduled id (manager.entity id)).mono ?_
      intro command member
      refine mem_append_left _ (mem_append_right _ ?_)
      refine List.mem_flatMap.mpr ⟨id, waiting, ?_⟩
      rw [insertionOf, if_neg (by simp [alive])]
      exact member
    · refine (updateCommands_scheduled id (manager.entity id)).mono ?_
      intro command member
      refine mem_append_right _ (List.mem_flatMap.mpr ⟨id, all id dirty ⟨alive, unclean⟩, ?_⟩)
      rw [updateOf, if_neg (by simp [unclean])]
      exact member

/-- Rotten, with pending queries. -/
def rottenApple (pending : Nat) : StorageManager :=
  { run step (start plainTypes 0 []) [.insert 1 "apple" 0 [] false, .tick [],
      .set 1 [("rotten", .int 1)], .update 1] with
    pendingQueries := pending }

theorem rottenApple_queues (pending : Nat) : Queues (rottenApple pending) := by
  have settled := run_invariant_of_step Settled (fun _ action settled => settled.step action)
    (start_nil_settled plainTypes 0) [.insert 1 "apple" 0 [] false, .tick [],
      .set 1 [("rotten", .int 1)], .update 1]
  exact settled.queues.of_unchanged rfl rfl rfl rfl rfl rfl (fun _ waiting => waiting) rfl

theorem shutdown_flushes_iff_idle :
    (∃ scheduled, ((rottenApple 200).shutdown []).commands =
      (rottenApple 200).commands ++ scheduled ∧
      ∀ id, (rottenApple 200).Waiting id → Scheduled scheduled id ((rottenApple 200).entity id)) ↔
    Unimpeded (rottenApple 200).entity (rottenApple 200).backlog (rottenApple 200).dirtyEntities
      [] :=
  shutdown_flushes_iff (rottenApple_queues 200) []

/-- Too many, and it is not stored. -/
theorem busyShutdown_loses_update :
    ¬ ∀ (manager : StorageManager) (completed : List Nat), Queues manager →
      ∃ scheduled, (manager.shutdown completed).commands = manager.commands ++ scheduled ∧
        ∀ id, manager.Waiting id → Scheduled scheduled id (manager.entity id) := by
  intro flushesAll
  have queues := rottenApple_queues 201
  obtain ⟨scheduled, same, flushed⟩ := flushesAll (rottenApple 201) [] queues
  rw [shutdown_commands queues] at same
  obtain rfl := append_cancel_left same
  have waiting : (rottenApple 201).Waiting 1 := by
    refine ⟨by decide +kernel, .inr ⟨by decide +kernel, by decide +kernel⟩⟩
  have isReached := reached_of_rowScheduled queues (by decide +kernel) (flushed 1 waiting).row
  revert isReached
  decide +kernel

/-- Nothing waits, unless the database is slow. -/
structure Drained (manager : StorageManager) : Prop where
  dropped : manager.destroyedEntities = []
  inserted : manager.unstoredEntities = []
  updated : manager.pendingQueries ≤ maxPendingQueries → manager.dirtyEntities = [] ∧
    ∀ id ∈ manager.eobjects, (manager.entity id).hasFlags entityQueued = false

theorem run_storeFront_unstored (manager : StorageManager) {waiting : List Nat}
    (queue : manager.unstoredEntities = waiting) :
    (run storeFront manager waiting).unstoredEntities = [] := by
  induction waiting generalizing manager with
  | nil => exact queue
  | cons id rest ih => exact ih (manager.storeFront id) (by simp [storeFront, queue])

theorem updateDirty_drains (manager : StorageManager) (completed : List Nat) {waiting : List Nat}
    (queue : manager.dirtyEntities = waiting) :
    (manager.updateDirty waiting completed).unstoredEntities = manager.unstoredEntities ∧
      ((manager.updateDirty waiting completed).pendingQueries ≤ maxPendingQueries →
        (manager.updateDirty waiting completed).dirtyEntities = []) := by
  induction waiting generalizing manager completed with
  | nil => exact ⟨rfl, fun _ => queue⟩
  | cons id rest ih =>
    unfold updateDirty
    dsimp only
    split
    next stopped => exact ⟨rfl, fun fits => absurd stopped (Nat.not_lt.mpr fits)⟩
    · refine (ih _ _ (by simp [updateFront, complete, queue])).imp_left fun same => same.trans ?_
      unfold updateFront
      dsimp only
      split <;> rfl

/-- A tick leaves nothing to wait if the database keeps up. -/
theorem run_drained (types : Inheritance) (accounts : Nat) (stored : List Command)
    (actions : List Action) (completed : List Nat) :
    (run step (create types accounts stored).initWorld (actions ++ [.tick completed])).Drained := by
  have settled := run_invariant_of_step Settled (fun _ action settled => settled.step action)
    (initWorld_settled types accounts stored) (actions ++ [.tick completed])
  rw [run_append] at settled ⊢
  generalize run step _ actions = before at settled ⊢
  change Settled (before.tick completed) at settled
  change Drained (before.tick completed)
  have inserted := run_storeFront_unstored (run dropFront before before.destroyedEntities) rfl
  obtain ⟨unstored, dirty⟩ := updateDirty_drains
    (run storeFront (run dropFront before before.destroyedEntities) _) completed rfl
  refine ⟨(before.tick_destroyed completed).1, unstored.trans inserted, fun fits =>
    ⟨dirty fits, ?_⟩⟩
  intro id registered
  have alive := Bool.eq_false_iff.mpr (settled.alive id registered)
  have queued := (settled.queues.placed id).queued ⟨registered, alive⟩
  rw [show (before.tick completed).unstoredEntities = [] from unstored.trans inserted,
    show (before.tick completed).dirtyEntities = [] from dirty fits] at queued
  simpa using queued

end StorageManager

end Cyphesis.Server
