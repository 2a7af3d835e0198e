import Cyphesis.Server.Rows

/-!
# Rows of destroyed entities

A destroyed entity that waits for an update is still updated.
-/

namespace Cyphesis.Server

open Cyphesis.Atlas List
open Cyphesis.Common
open Cyphesis.Foundation
open Cyphesis.Rules

/-- All has been stored. -/
def Quiet (entity : LocatedEntity) : Prop :=
  ∀ name property, entity.propertyAt name = some property → isChanged property = true →
    property.hasFlags propFlagPersistenceSeen = true

variable {entity : LocatedEntity} (types : Inheritance)

theorem Quiet.propertyTuples_eq_nil (quiet : Quiet entity) : propertyTuples isNew entity = [] := by
  rw [← map_eq_nil_iff (f := Prod.fst), eq_nil_iff_forall_not_mem]
  intro name member
  obtain ⟨property, found, new⟩ := mem_propertyTuples_names.mp member
  rw [isNew, Bool.and_eq_true, Bool.not_eq_true'] at new
  rw [quiet name property found new.1] at new
  exact absurd new.2 (by decide)

theorem Quiet.applyLocation (quiet : Quiet entity) : Quiet entity.applyLocation := by
  intro name property found changed
  rw [applyLocation_propertyAt, Option.map_eq_some_iff] at found
  obtain ⟨old, foundOld, rfl⟩ := found
  by_cases isLoc : name = LocatedEntity.locName
  · rw [if_pos isLoc] at changed ⊢
    have seen := Flags.hasFlags_addFlags_of_disjoint old.flags
      (show propFlagUnsent &&& propFlagPersistenceSeen = 0 by decide)
    have mask := Flags.hasFlags_addFlags_of_disjoint old.flags
      (show propFlagUnsent &&& propFlagPersistenceMask = 0 by decide)
    refine seen.trans (quiet name old foundOld ?_)
    rw [isChanged, SoftProperty.hasFlags, SoftProperty.flags_addFlags, mask] at changed
    exact changed
  · rw [if_neg isLoc] at changed ⊢
    exact quiet name old foundOld changed

namespace StorageManager

variable {manager : StorageManager} {id : Nat}

/-- Only connected entities have rows. -/
structure Ghostless (manager : StorageManager) (spared : Nat → Prop) : Prop where
  connected : ∀ id, manager.database.hasRow id → id ∈ manager.updated
  dropped : ∀ id, (manager.entity id).isDestroyed = true → manager.database.hasRow id →
    id ∈ manager.destroyedEntities ∨ spared id
  quiet : ∀ id ∈ manager.dirtyEntities, (manager.entity id).isDestroyed = true →
    Quiet (manager.entity id)

namespace Ghostless

variable {spared : Nat → Prop}

section

variable (ghostless : manager.Ghostless spared)

include ghostless

theorem setEntity
    (destroyed : entity.isDestroyed = (manager.entity id).isDestroyed)
    (quiet : id ∈ manager.dirtyEntities → entity.isDestroyed = true →
      Quiet (manager.entity id) → Quiet entity) :
    (manager.setEntity id entity).Ghostless spared where
  connected := ghostless.connected
  dropped other isDestroyed := by
    rw [manager.setEntity_isDestroyed destroyed] at isDestroyed
    exact ghostless.dropped other isDestroyed
  quiet other dirty isDestroyed := by
    by_cases same : other = id
    · subst same
      rw [setEntity_entity_self] at isDestroyed ⊢
      refine quiet dirty isDestroyed (ghostless.quiet other dirty ?_)
      rw [← destroyed]
      exact isDestroyed
    · rw [setEntity_entity_of_ne _ _ same] at isDestroyed ⊢
      exact ghostless.quiet other dirty isDestroyed

theorem entityUpdated (id : Nat) : (manager.entityUpdated id).Ghostless spared := by
  obtain ⟨_, same⟩ | ⟨_, _, same⟩ | ⟨alive, _, same⟩ := manager.entityUpdated_cases id
  · rw [same]
    refine ⟨ghostless.connected, ?_, ghostless.quiet⟩
    intro other destroyed row
    exact (ghostless.dropped other destroyed row).imp_left (mem_append_left [id])
  · rw [same]
    exact ghostless
  · have kept : ((manager.entity id).addFlags entityQueued).isDestroyed =
        (manager.entity id).isDestroyed := addFlags_isDestroyed _ (by decide)
    have flagged : (manager.setEntity id ((manager.entity id).addFlags entityQueued)).Ghostless
        spared := ghostless.setEntity kept fun _ _ quiet => quiet
    rw [same]
    refine ⟨flagged.connected, flagged.dropped, ?_⟩
    intro other dirty destroyed
    rcases List.mem_append.mp dirty with earlier | new
    · exact flagged.quiet other earlier destroyed
    · rw [List.mem_singleton.mp new, modify_entity_self, kept, alive] at destroyed
      contradiction

theorem onUpdated (id : Nat) : (manager.onUpdated id).Ghostless spared := by
  unfold StorageManager.onUpdated
  split
  · exact ghostless.entityUpdated id
  · exact ghostless

theorem hang (id loc : Nat) : (manager.hang id loc).Ghostless spared := by
  have moved : (manager.modify id fun entity =>
      { entity with parent := some loc }.applyLocation).Ghostless spared := by
    refine ghostless.setEntity (applyLocation_hasFlags _ (by decide)) ?_
    intro _ _ quiet
    exact Quiet.applyLocation quiet
  unfold StorageManager.hang StorageManager.onContainered
  split
  · exact moved.entityUpdated id
  · exact moved

variable {rest : List Nat}

theorem dropFront
    (front : manager.destroyedEntities = id :: rest) :
    (manager.dropFront id).Ghostless spared := by
  have rows := manager.hasRow_dropFront id
  refine ⟨?_, ?_, ghostless.quiet⟩
  · intro other row
    exact ghostless.connected other ((rows other).mp row).2
  · intro other destroyed row
    obtain ⟨different, row⟩ := (rows other).mp row
    refine (ghostless.dropped other destroyed row).imp_left ?_
    intro waiting
    simp only [StorageManager.dropFront, front, tail_cons]
    rw [front, mem_cons] at waiting
    exact waiting.resolve_left different

theorem storeFront (queues : Queues manager) (front : manager.unstoredEntities = id :: rest) :
    (manager.storeFront id).Ghostless spared := by
  have waiting : id ∈ manager.unstoredEntities := by simp [front]
  unfold StorageManager.storeFront
  dsimp only
  split
  · exact ⟨ghostless.connected, ghostless.dropped, ghostless.quiet⟩
  next alive =>
    rw [Bool.not_eq_true] at alive
    have kept : (insertedEntity (manager.entity id)).isDestroyed =
        (manager.entity id).isDestroyed :=
      (addFlags_isDestroyed _ (by decide)).trans (removeFlags_isDestroyed _ (by decide))
    have marked : (manager.setEntity id (insertedEntity (manager.entity id))).Ghostless spared := by
      refine ghostless.setEntity kept ?_
      intro dirty
      exact absurd dirty (queues.unstored_not_dirty waiting)
    have rows : ∀ other, (manager.insertEntity id).database.hasRow other →
        other = id ∨ manager.database.hasRow other := by
      intro other row
      have scheduled : (manager.insertEntity id).database = _ :=
        manager.database_schedule (insertCommands id (manager.entity id))
      rw [scheduled] at row
      exact hasRow_insertCommands _ _ row
    refine ⟨?_, ?_, marked.quiet⟩
    · intro other row
      rcases rows other row with rfl | row
      · exact Finset.mem_insert_self ..
      · exact Finset.mem_insert_of_mem (ghostless.connected other row)
    · intro other destroyed row
      rcases rows other row with rfl | row
      · have stillAlive := congrArg LocatedEntity.isDestroyed
          (manager.setEntity_entity_self other (insertedEntity (manager.entity other)))
        rw [kept, alive] at stillAlive
        exact absurd (destroyed.symm.trans stillAlive) (by decide)
      · exact marked.dropped other destroyed row

theorem updateFront (queues : Queues manager) (front : manager.dirtyEntities = id :: rest) :
    (manager.updateFront id).Ghostless spared := by
  have dirty : id ∈ manager.dirtyEntities := by simp [front]
  have connected := (queues.placed id).dirtyUpdated dirty
  have notLater : id ∉ rest := by
    have nodup := queues.dirtyNodup
    rw [front, nodup_cons] at nodup
    exact nodup.1
  have later : ∀ other ∈ rest, other ∈ manager.dirtyEntities := by
    intro other member
    rw [front]
    exact mem_cons_of_mem id member
  have quiet : ∀ (entity : LocatedEntity), ∀ other ∈ rest,
      ((manager.setEntity id entity).entity other).isDestroyed = true →
      Quiet ((manager.setEntity id entity).entity other) := by
    intro entity other member destroyed
    have different : other ≠ id := by
      rintro rfl
      exact notLater member
    rw [setEntity_entity_of_ne _ _ different] at destroyed ⊢
    exact ghostless.quiet other (later other member) destroyed
  obtain ⟨_, same⟩ | ⟨_, same⟩ := manager.updateFront_cases id
  · rw [same, front, tail_cons]
    refine ⟨ghostless.connected, ?_, quiet _⟩
    intro other destroyed
    refine ghostless.dropped other ?_
    rw [← manager.setEntity_isDestroyed (removeFlags_isDestroyed (manager.entity id)
      (show entityDestroyed &&& entityQueued = 0 by decide)) other]
    exact destroyed
  · have kept : ((updatedEntity (manager.entity id)).removeFlags entityQueued).isDestroyed =
        (manager.entity id).isDestroyed :=
      (removeFlags_isDestroyed _ (by decide)).trans (addFlags_isDestroyed _ (by decide))
    have rows : ∀ other, (run Database.exec manager.database
          (updateCommands id (manager.entity id))).hasRow other →
        (other = id ∧ (manager.entity id).isDestroyed = false) ∨
          manager.database.hasRow other := by
      intro other row
      refine (hasRow_updateCommands _ row).imp_left fun ⟨isId, new⟩ => ⟨isId, ?_⟩
      rw [Bool.eq_false_iff]
      exact fun destroyed => new (ghostless.quiet id dirty destroyed).propertyTuples_eq_nil
    rw [same, front, tail_cons]
    have scheduled := manager.database_schedule (updateCommands id (manager.entity id))
    refine ⟨?_, ?_, quiet _⟩
    · intro other row
      rcases rows other (scheduled ▸ row) with ⟨rfl, _⟩ | row
      · exact connected
      · exact ghostless.connected other row
    · intro other destroyed row
      have wasDestroyed := (manager.setEntity_isDestroyed kept other).symm.trans destroyed
      rcases rows other (scheduled ▸ row) with ⟨rfl, alive⟩ | row
      · exact absurd (wasDestroyed.symm.trans alive) (by decide)
      · exact ghostless.dropped other wasDestroyed row

theorem touch {unsent : Bool} (live : manager.Live id)
    (touched : (manager.entity id).Touched unsent entity) :
    (manager.setEntity id entity).Ghostless spared := by
  have kept : entity.isDestroyed = (manager.entity id).isDestroyed :=
    touched.flags entityDestroyed (by decide)
  refine ghostless.setEntity kept ?_
  intro _ destroyed
  rw [kept, live.2] at destroyed
  contradiction

theorem enroll (queues : Queues manager) (loc : Nat)
    (fresh : manager.idGenerator < id) (created : Created manager.types entity) :
    (manager.enroll id loc entity).Ghostless spared := by
  have placed := queues.placed id
  have unconnected : id ∉ manager.updated := fun connected =>
    absurd (placed.bounded (.inr (.inr (.inl connected)))) (by omega)
  have notDirty : id ∉ manager.dirtyEntities := fun dirty =>
    unconnected (placed.dirtyUpdated dirty)
  have admitted : ∀ entity, ((manager.accept id).setEntity id entity).Ghostless spared := by
    intro entity
    refine ⟨ghostless.connected, ?_, ?_⟩
    · intro other destroyed row
      have different : other ≠ id := by
        rintro rfl
        exact unconnected (ghostless.connected other row)
      rw [setEntity_entity_of_ne _ _ different] at destroyed
      exact ghostless.dropped other destroyed row
    · intro other dirty destroyed
      have different : other ≠ id := by
        rintro rfl
        exact notDirty dirty
      rw [setEntity_entity_of_ne _ _ different] at destroyed ⊢
      exact ghostless.quiet other dirty destroyed
  obtain ⟨_, same⟩ | ⟨_, same⟩ := manager.enroll_cases id loc created.unclean
  · rw [same]
    exact admitted _
  · have queued := admitted ({ entity with parent := some loc }.applyLocation.addFlags entityQueued)
    rw [same]
    exact ⟨queued.connected, queued.dropped, queued.quiet⟩

end

variable {guarded : Prop} {after : StorageManager}

theorem change (ghostless : manager.Ghostless spared)
    (queues : Queues manager) (change : Change guarded manager after) :
    after.Ghostless spared := by
  cases change with
  | request live requested => exact ghostless.touch live requested.touched
  | @broadcast id live =>
    have touched := ghostless.touch live
      (LocatedEntity.updateProperties_touched (manager.entity id))
    unfold StorageManager.updateProperties
    dsimp only
    split
    · exact touched.onUpdated id
    · exact touched
  | @notify id connected => exact ghostless.entityUpdated id
  | @hang id loc registered notBase movable => exact ghostless.hang id loc
  | disturb =>
    refine ghostless.setEntity (removeFlags_isDestroyed _ (by decide)) ?_
    exact fun _ _ quiet => quiet
  | enroll loc fresh created => exact ghostless.enroll queues loc fresh created
  | detach destroyed => exact ghostless.setEntity rfl fun _ _ quiet => quiet
  | drop front => exact ghostless.dropFront front
  | store front => exact ghostless.storeFront queues front
  | update front => exact ghostless.updateFront queues front
  | complete queries =>
    exact ⟨ghostless.connected, ghostless.dropped, ghostless.quiet⟩

theorem changes (ghostless : manager.Ghostless spared)
    (queues : Queues manager) (changes : Changes guarded manager after) :
    after.Ghostless spared := by
  induction changes with
  | refl => exact ghostless
  | tail earlier last ih => exact ih.change (queues.changes earlier) last

end Ghostless

/-- Deleted when all is stored. -/
def DeletesQuiet (manager : StorageManager) : Action → Prop
  | .delete id _ => id ∈ manager.dirtyEntities → Quiet (manager.entity id)
  | _ => True

theorem Ghostless.step {action : Action} (settled : Settled manager)
    (ghostless : manager.Ghostless fun _ => False) (quiet : manager.DeletesQuiet action) :
    (manager.step action).Ghostless fun _ => False := by
  obtain changes | ⟨id, leaving, rfl, registered, notBase, state, changes, frame, same⟩ :=
    step_changes False settled.queues settled.alive action (fun absurd => absurd.elim)
  · exact ghostless.changes settled.queues changes
  · have condemned : (manager.condemn id).Ghostless (· = id) := by
      refine ⟨ghostless.connected, ?_, ?_⟩
      · intro other destroyed row
        by_cases isId : other = id
        · exact .inr isId
        · rw [condemn, modify_entity_of_ne _ _ isId] at destroyed
          exact (ghostless.dropped other destroyed row).imp_right False.elim
      · intro other dirty destroyed
        by_cases isId : other = id
        · subst isId
          rw [condemn, modify_entity_self]
          exact quiet dirty
        · rw [condemn, modify_entity_of_ne _ _ isId] at destroyed ⊢
          exact ghostless.quiet other dirty destroyed
    have emptied := condemned.changes (settled.queues.condemn notBase) changes
    have destroyed : (state.entity id).isDestroyed = true := by
      rw [frame.destroyed]
      exact manager.condemn_isDestroyed id
    have told := emptied.onUpdated id
    rw [same]
    refine ⟨told.connected, ?_, told.quiet⟩
    intro other isDestroyed row
    left
    rcases told.dropped other isDestroyed row with waiting | rfl
    · exact waiting
    · -- The entity has told the manager of its end, as it has rows.
      have connected := told.connected other row
      rw [(onUpdated_frame state other).updated] at connected
      simp [StorageManager.onUpdated, connected, StorageManager.entityUpdated, destroyed]

/-- The destroyed queue is left alone. -/
structure SameDestroyed (before after : StorageManager) : Prop where
  queue : after.destroyedEntities = before.destroyedEntities
  destroyed : ∀ id, (after.entity id).isDestroyed = (before.entity id).isDestroyed

theorem SameDestroyed.trans {first second third : StorageManager}
    (earlier : SameDestroyed first second) (later : SameDestroyed second third) :
    SameDestroyed first third :=
  ⟨later.queue.trans earlier.queue, fun id => (later.destroyed id).trans (earlier.destroyed id)⟩

section

variable (manager)

theorem storeFront_sameDestroyed (id : Nat) : SameDestroyed manager (manager.storeFront id) := by
  refine ⟨?_, manager.storeFront_isDestroyed id⟩
  unfold storeFront
  dsimp only
  split <;> rfl

theorem updateFront_sameDestroyed (id : Nat) : SameDestroyed manager (manager.updateFront id) := by
  refine ⟨?_, manager.updateFront_isDestroyed id⟩
  obtain ⟨_, same⟩ | ⟨_, same⟩ := manager.updateFront_cases id
  · rw [same]
    rfl
  · rw [same]
    rfl

theorem run_storeFront_sameDestroyed (waiting : List Nat) :
    SameDestroyed manager (run storeFront manager waiting) := by
  induction waiting generalizing manager with
  | nil => exact ⟨rfl, fun _ => rfl⟩
  | cons id rest ih => exact (manager.storeFront_sameDestroyed id).trans (ih _)

theorem updateDirty_sameDestroyed (waiting completed : List Nat) :
    SameDestroyed manager (manager.updateDirty waiting completed) := by
  induction waiting generalizing manager completed with
  | nil => exact ⟨rfl, fun _ => rfl⟩
  | cons id rest ih =>
    unfold updateDirty
    dsimp only
    split
    · exact ⟨rfl, fun _ => rfl⟩
    · have checked : SameDestroyed manager (manager.complete (completed.headD 0)) :=
        ⟨rfl, fun _ => rfl⟩
      exact (checked.trans (updateFront_sameDestroyed _ id)).trans (ih _ _)

theorem tick_destroyed (completed : List Nat) :
    (manager.tick completed).destroyedEntities = [] ∧
      ∀ id, ((manager.tick completed).entity id).isDestroyed = (manager.entity id).isDestroyed := by
  have dropped := (manager.run_dropFront_changes True rfl).2
  have sameEntity : ∀ waiting : List Nat,
      (run dropFront manager waiting).entity = manager.entity := by
    have step : ∀ (state : StorageManager) (id : Nat), state.entity = manager.entity →
        (state.dropFront id).entity = manager.entity := fun _ _ same => same
    exact run_invariant_of_step
      (fun state : StorageManager => state.entity = manager.entity) step rfl
  have kept : SameDestroyed (run dropFront manager manager.destroyedEntities)
      (manager.tick completed) :=
    (run_storeFront_sameDestroyed _ _).trans (updateDirty_sameDestroyed _ _ completed)
  refine ⟨kept.queue.trans dropped, ?_⟩
  intro id
  refine (kept.destroyed id).trans ?_
  rw [sameEntity]

end

variable (accounts : Nat)

theorem database_start_nil : (start types accounts []).database = Database.initial := by
  rw [start_of_nothingStored types accounts ⟨rfl, rfl⟩]
  rfl

theorem start_nil_settled : Settled (start types accounts []) := by
  rw [start_of_nothingStored types accounts ⟨rfl, rfl⟩]
  exact initWorld_settled types accounts []

theorem start_nil_ghostless : (start types accounts []).Ghostless fun _ => False := by
  have settled := start_nil_settled types accounts
  have onlyBase : ∀ id, Database.initial.hasRow id → id = baseId := by
    rintro id (⟨row, member, rfl⟩ | ⟨name, row, member, _⟩)
    · rw [List.mem_singleton.mp member]
      rfl
    · exact absurd member not_mem_nil
  refine ⟨?_, ?_, ?_⟩
  · intro id row
    rw [database_start_nil] at row
    rw [onlyBase id row]
    exact settled.queues.baseUpdated
  · intro id destroyed row
    rw [database_start_nil] at row
    rw [onlyBase id row, settled.queues.baseLive.2] at destroyed
    contradiction
  · intro id dirty
    rw [start_of_nothingStored types accounts ⟨rfl, rfl⟩] at dirty
    exact absurd dirty not_mem_nil

/-- A tick of the storage leaves no rows of an entity that was destroyed, if nothing new is unsaved
about it when it is deleted while it waits. -/
theorem tick_no_ghost_rows (types : Inheritance) (accounts : Nat) (actions : List Action)
    (admissible : Admissible step DeletesQuiet (start types accounts []) actions)
    (completed : List Nat) (id : Nat)
    (destroyed : ((run step (start types accounts []) actions).entity id).isDestroyed = true) :
    ¬ (run step (start types accounts []) (actions ++ [.tick completed])).database.hasRow id := by
  have inv := run_invariant
    (fun manager : StorageManager => Settled manager ∧ manager.Ghostless fun _ => False)
    (fun manager action holds quiet => ⟨holds.1.step action, Ghostless.step holds.1 holds.2 quiet⟩)
    ⟨start_nil_settled types accounts, start_nil_ghostless types accounts⟩ admissible
  rw [run_append, run_cons, run_nil]
  generalize run step (start types accounts []) actions = manager at inv destroyed
  intro row
  have after : (manager.step (.tick completed)).Ghostless fun _ => False :=
    Ghostless.step inv.1 inv.2 trivial
  obtain ⟨empty, same⟩ := manager.tick_destroyed completed
  rcases after.dropped id ((same id).trans destroyed) row with waiting | none
  · rw [show (manager.step (.tick completed)).destroyedEntities = [] from empty] at waiting
    exact not_mem_nil waiting
  · exact none

/-- Types without default properties. -/
def plainTypes : Inheritance where
  node name := { name := name, defaults := ∅ }
  name_node _ := rfl
  unmarked name property default found := by simp at found

theorem tick_no_ghost_rows_apple :
    ((run step (start plainTypes 0 [])
        [.insert 1 "apple" 0 [] false, .tick [], .delete 1 []]).entity 1).isDestroyed = true ∧
      ¬ (run step (start plainTypes 0 [])
        ([.insert 1 "apple" 0 [] false, .tick [], .delete 1 []] ++
          [.tick []])).database.hasRow 1 := by
  have destroyed : ((run step (start plainTypes 0 [])
      [.insert 1 "apple" 0 [] false, .tick [], .delete 1 []]).entity 1).isDestroyed = true := by
    decide +kernel
  have admissible : Admissible step DeletesQuiet (start plainTypes 0 [])
      [.insert 1 "apple" 0 [] false, .tick [], .delete 1 []] := by
    refine ⟨trivial, trivial, ?_, trivial⟩
    intro dirty
    exact absurd dirty (by decide +kernel)
  exact ⟨destroyed, tick_no_ghost_rows plainTypes 0 _ admissible [] 1 destroyed⟩

/-- Set before, and stored after it. -/
theorem rottenApple_ghost_row :
    ¬ ∀ (types : Inheritance) (accounts : Nat) (actions : List Action) (completed : List Nat)
      (id : Nat), ((run step (start types accounts []) actions).entity id).isDestroyed = true →
      ¬ (run step (start types accounts []) (actions ++ [.tick completed])).database.hasRow id := by
  intro leavesNoRows
  refine leavesNoRows plainTypes 0 [.insert 1 "apple" 0 [] false, .tick [],
    .set 1 [("rotten", .int 1)], .update 1, .delete 1 []] [] 1 (by decide +kernel)
    (.inr ⟨"rotten", ?_⟩)
  decide +kernel

end StorageManager

end Cyphesis.Server
