import Cyphesis.Server.GhostRows

/-!
# One row for each property

Whether a property is inserted or updated depends on a flag of the property.
-/

namespace Cyphesis.Server

open Cyphesis.Atlas List Option
open Cyphesis.Common
open Cyphesis.Foundation
open Cyphesis.Rules

/-- No row is inserted again. -/
def FreshInsert (database : Database) : Command → Prop
  | .insertEntity id _ _ _ => ¬ database.hasEntity id
  | .insertProperties id tuples =>
    (tuples.map Prod.fst).Nodup ∧ ∀ name ∈ tuples.map Prod.fst, ¬ database.hasProperty id name
  | _ => True

instance (database : Database) (command : Command) : Decidable (FreshInsert database command) :=
  match command with
  | .insertEntity id _ _ _ => inferInstanceAs (Decidable (¬ database.hasEntity id))
  | .insertProperties id tuples =>
    inferInstanceAs (Decidable ((tuples.map Prod.fst).Nodup ∧
      ∀ name ∈ tuples.map Prod.fst, ¬ database.hasProperty id name))
  | .updateEntity _ _ _ | .updateEntityWithoutLoc _ _ | .updateProperty _ _ _
  | .deleteProperties _ | .deleteEntity _ | .deleteThoughts _ => isTrue trivial

theorem markStored_propertyAt (wanted : SoftProperty → Bool) (entity : LocatedEntity)
    (name : String) :
    (markStored wanted entity).propertyAt name =
      (entity.propertyAt name).map fun property =>
        if wanted property then
          property.addFlags (propFlagPersistenceClean ||| propFlagPersistenceSeen)
        else property := by
  simp only [LocatedEntity.propertyAt, markStored, Std.TreeMap.getElem?_map]
  cases entity.properties[name]? with
  | none => rfl
  | some entry => rfl

/-- The property has been stored. -/
def IsSeen (entity : LocatedEntity) (name : String) : Prop :=
  ∃ property, entity.propertyAt name = some property ∧
    property.hasFlags propFlagPersistenceSeen = true

variable {entity : LocatedEntity}

variable {name : String} {wanted : SoftProperty → Bool}

theorem IsSeen.markStored (seen : IsSeen entity name) : IsSeen (markStored wanted entity) name := by
  obtain ⟨property, found, marked⟩ := seen
  refine ⟨_, by rw [markStored_propertyAt, found, map_some], ?_⟩
  split
  · exact Flags.hasFlags_addFlags_of_subset _ (by decide)
  · exact marked

theorem isSeen_markStored_of_wanted {property : SoftProperty}
    (found : entity.propertyAt name = some property) (isWanted : wanted property = true) :
    IsSeen (markStored wanted entity) name := by
  refine ⟨_, by rw [markStored_propertyAt, found, map_some], ?_⟩
  rw [if_pos isWanted]
  exact Flags.hasFlags_addFlags_of_subset _ (by decide)

theorem IsSeen.touched {unsent : Bool} {before after : LocatedEntity} (seen : IsSeen before name)
    (touched : before.Touched unsent after) : IsSeen after name := by
  obtain ⟨property, found, marked⟩ := seen
  rcases touched.properties name with same | ⟨⟨changed, foundChanged, _, _, keeps, _⟩, _⟩
  · refine ⟨property, ?_, marked⟩
    rw [LocatedEntity.propertyAt, same]
    exact found
  · refine ⟨changed, foundChanged, ?_⟩
    rw [keeps, LocatedEntity.propertyForSet_of_propertyAt found]
    exact marked

theorem IsSeen.applyLocation (seen : IsSeen entity name) : IsSeen entity.applyLocation name := by
  obtain ⟨property, found, marked⟩ := seen
  refine ⟨_, by rw [applyLocation_propertyAt, found, map_some], ?_⟩
  split
  · exact (Flags.hasFlags_addFlags_of_disjoint _ (by decide)).trans marked
  · exact marked

namespace StorageManager

variable {manager : StorageManager} {id : Nat}

/-- Nothing is inserted twice. -/
structure Unique (manager : StorageManager) : Prop where
  commands : Admissible Database.exec FreshInsert Database.initial manager.commands
  bounded : ∀ id, manager.database.hasRow id → id ≤ manager.idGenerator
  unstored : ∀ id ∈ manager.unstoredEntities, ¬ manager.database.hasRow id
  seen : ∀ id ∈ manager.updated, ∀ name, manager.database.hasProperty id name →
    IsSeen (manager.entity id) name

namespace Unique

section

variable (unique : Unique manager)

include unique

theorem setEntity (seen : ∀ name, IsSeen (manager.entity id) name → IsSeen entity name) :
    Unique (manager.setEntity id entity) where
  commands := unique.commands
  bounded := unique.bounded
  unstored := unique.unstored
  seen other connected name row := by
    have old := unique.seen other connected name row
    by_cases same : other = id
    · subst same
      rw [setEntity_entity_self]
      exact seen name old
    · rw [setEntity_entity_of_ne _ _ same]
      exact old

theorem entityUpdated (id : Nat) : Unique (manager.entityUpdated id) := by
  obtain ⟨_, same⟩ | ⟨_, _, same⟩ | ⟨_, _, same⟩ := manager.entityUpdated_cases id
  · rw [same]
    exact ⟨unique.commands, unique.bounded, unique.unstored, unique.seen⟩
  · rw [same]
    exact unique
  · have flagged : Unique (manager.setEntity id ((manager.entity id).addFlags entityQueued)) :=
      unique.setEntity fun _ seen => seen
    rw [same]
    exact ⟨flagged.commands, flagged.bounded, flagged.unstored, flagged.seen⟩

theorem onUpdated (id : Nat) : Unique (manager.onUpdated id) := by
  unfold StorageManager.onUpdated
  split
  · exact unique.entityUpdated id
  · exact unique

theorem hang (id loc : Nat) : Unique (manager.hang id loc) := by
  have moved : Unique (manager.modify id fun entity =>
      { entity with parent := some loc }.applyLocation) :=
    unique.setEntity fun _ seen => IsSeen.applyLocation seen
  unfold StorageManager.hang StorageManager.onContainered
  split
  · exact moved.entityUpdated id
  · exact moved

theorem commands_schedule {commands : List Command}
    (fresh : Admissible Database.exec FreshInsert manager.database commands) :
    Admissible Database.exec FreshInsert Database.initial (manager.schedule commands).commands :=
  (admissible_append ..).mpr ⟨unique.commands, fresh⟩

theorem dropFront (id : Nat) : Unique (manager.dropFront id) := by
  have scheduled : (manager.dropFront id).database = _ :=
    manager.database_schedule (Database.dropEntity id)
  have rows := fun other row => ((manager.hasRow_dropFront id other).mp row).2
  refine ⟨unique.commands_schedule ⟨trivial, trivial, trivial, trivial⟩, ?_, ?_, ?_⟩
  · exact fun other row => unique.bounded other (rows other row)
  · exact fun other waiting row => unique.unstored other waiting (rows other row)
  · intro other connected name row
    rw [scheduled] at row
    simp only [Database.dropEntity, run_cons, run_nil, Database.hasProperty_exec] at row
    exact unique.seen other connected name row.2

end

theorem insertProperties_fresh {database : Database} {tuples : List (String × Element)}
    (nodup : (tuples.map Prod.fst).Nodup)
    (absent : ∀ name ∈ tuples.map Prod.fst, ¬ database.hasProperty id name) :
    Admissible Database.exec FreshInsert database (insertProperties id tuples) := by
  unfold insertProperties
  split
  · trivial
  · exact ⟨⟨nodup, absent⟩, trivial⟩

theorem updateProperties_fresh (database : Database) (tuples : List (String × Element)) :
    Admissible Database.exec FreshInsert database
      (tuples.map fun tuple => .updateProperty id tuple.1 tuple.2) := by
  induction tuples generalizing database with
  | nil => trivial
  | cons tuple rest ih => exact ⟨trivial, ih _⟩

section

variable (unique : Unique manager) (queues : Queues manager)

include unique queues

theorem storeFront {rest : List Nat} (front : manager.unstoredEntities = id :: rest) :
    Unique (manager.storeFront id) := by
  have waiting : id ∈ manager.unstoredEntities := by simp [front]
  have noRow := unique.unstored id waiting
  have notLater : id ∉ rest := by
    have nodup := queues.unstoredNodup
    rw [front, nodup_cons] at nodup
    exact nodup.1
  have later : ∀ other ∈ rest, other ∈ manager.unstoredEntities := by
    intro other member
    rw [front]
    exact mem_cons_of_mem id member
  unfold StorageManager.storeFront
  rw [front, tail_cons]
  dsimp only
  split
  · exact ⟨unique.commands, unique.bounded,
      fun other member => unique.unstored other (later other member), unique.seen⟩
  · have scheduled : (manager.insertEntity id).database = _ :=
      manager.database_schedule (insertCommands id (manager.entity id))
    have rows : ∀ other, (manager.insertEntity id).database.hasRow other →
        other = id ∨ manager.database.hasRow other :=
      fun _ row => hasRow_insertCommands _ _ (scheduled ▸ row)
    refine ⟨unique.commands_schedule ⟨fun row => noRow (.inl row), ?_⟩, ?_, ?_, ?_⟩
    · refine insertProperties_fresh (propertyTuples_nodup _ _) ?_
      intro name _ row
      rw [Database.hasProperty_exec] at row
      exact noRow (.inr ⟨name, row⟩)
    · intro other row
      rcases rows other row with rfl | row
      · exact (queues.placed other).bounded (.inr (.inl waiting))
      · exact unique.bounded other row
    · intro other member row
      rcases rows other row with rfl | row
      · exact notLater member
      · exact unique.unstored other (later other member) row
    · intro other connected name row
      replace row : (run Database.exec manager.database
        (insertCommands id (manager.entity id))).hasProperty other name := scheduled ▸ row
      rw [hasProperty_insertCommands] at row
      by_cases same : other = id
      · subst same
        rcases row with ⟨_, member⟩ | row
        · obtain ⟨property, found, isWanted⟩ := mem_propertyTuples_names.mp member
          have seen : IsSeen (markStored isPersistent (manager.entity other)) name :=
            isSeen_markStored_of_wanted found isWanted
          simp only [insertEntity, connect, setEntity_entity_self]
          exact seen
        · exact absurd (.inr ⟨name, row⟩) noRow
      · have row := row.resolve_left fun inserted => same inserted.1
        have old := unique.seen other ((Finset.mem_insert.mp connected).resolve_left same) name row
        simp only [insertEntity, connect, setEntity_entity_of_ne _ _ same]
        exact old

theorem updateFront {rest : List Nat} (front : manager.dirtyEntities = id :: rest) :
    Unique (manager.updateFront id) := by
  have connected := (queues.placed id).dirtyUpdated (by simp [front])
  obtain ⟨_, same⟩ | ⟨_, same⟩ := manager.updateFront_cases id
  · have released : Unique (manager.setEntity id
        ((manager.entity id).removeFlags entityQueued)) := unique.setEntity fun _ seen => seen
    rw [same]
    exact ⟨released.commands, released.bounded, released.unstored, released.seen⟩
  · have scheduled := manager.database_schedule (updateCommands id (manager.entity id))
    have rows : ∀ other, (run Database.exec manager.database
          (updateCommands id (manager.entity id))).hasRow other →
        other = id ∨ manager.database.hasRow other :=
      fun _ row => (hasRow_updateCommands _ row).imp_left And.left
    -- A property that is inserted has no row, as its flag would be set.
    have absent : ∀ name ∈ (propertyTuples isNew (manager.entity id)).map Prod.fst,
        ¬ manager.database.hasProperty id name := by
      intro name member row
      obtain ⟨property, found, new⟩ := mem_propertyTuples_names.mp member
      obtain ⟨stored, foundStored, seen⟩ := unique.seen id connected name row
      obtain rfl := Option.some.inj (found.symm.trans foundStored)
      simp [isNew, seen] at new
    have fresh : Admissible Database.exec FreshInsert manager.database
        (updateCommands id (manager.entity id)) := by
      refine ⟨?_, (admissible_append ..).mpr ⟨?_, updateProperties_fresh _ _⟩⟩
      · unfold updateRow
        split <;> trivial
      · refine insertProperties_fresh (propertyTuples_nodup _ _) ?_
        intro name member row
        rw [hasProperty_updateRow] at row
        exact absent name member row
    rw [same]
    refine ⟨unique.commands_schedule fresh, ?_, ?_, ?_⟩
    · intro other row
      rcases rows other (scheduled ▸ row) with rfl | row
      · exact (queues.placed other).bounded (.inr (.inr (.inl connected)))
      · exact unique.bounded other row
    · intro other waiting row
      rcases rows other (scheduled ▸ row) with rfl | row
      · exact (queues.placed other).unstoredUnconnected waiting connected
      · exact unique.unstored other waiting row
    · intro other isConnected name row
      replace row : (run Database.exec manager.database
        (updateCommands id (manager.entity id))).hasProperty other name := scheduled ▸ row
      rw [hasProperty_updateCommands] at row
      by_cases isId : other = id
      · subst isId
        have seen : IsSeen (markStored isChanged (manager.entity other)) name := by
          rcases row with ⟨_, member⟩ | row
          · obtain ⟨property, found, new⟩ := mem_propertyTuples_names.mp member
            rw [isNew, Bool.and_eq_true] at new
            exact isSeen_markStored_of_wanted found new.1
          · exact (unique.seen other connected name row).markStored
        rw [setEntity_entity_self]
        exact seen
      · rw [setEntity_entity_of_ne _ _ isId]
        exact unique.seen other isConnected name (row.resolve_left fun new => isId new.1)

theorem enroll (loc : Nat) (fresh : manager.idGenerator < id)
    (created : Created manager.types entity) : Unique (manager.enroll id loc entity) := by
  have placed := queues.placed id
  have unconnected : id ∉ manager.updated := fun connected =>
    absurd (placed.bounded (.inr (.inr (.inl connected)))) (by omega)
  have admitted : ∀ entity, Unique ((manager.accept id).setEntity id entity) := by
    intro entity
    refine ⟨unique.commands, fun other row => (unique.bounded other row).trans fresh.le,
      unique.unstored, ?_⟩
    intro other connected name row
    have different : other ≠ id := by
      rintro rfl
      exact unconnected connected
    rw [setEntity_entity_of_ne _ _ different]
    exact unique.seen other connected name row
  obtain ⟨_, same⟩ | ⟨_, same⟩ := manager.enroll_cases id loc created.unclean
  · rw [same]
    exact admitted _
  · have queued := admitted ({ entity with parent := some loc }.applyLocation.addFlags entityQueued)
    rw [same]
    refine ⟨queued.commands, queued.bounded, ?_, queued.seen⟩
    intro other waiting row
    rcases List.mem_append.mp waiting with earlier | new
    · exact unique.unstored other earlier row
    · rw [List.mem_singleton.mp new] at row
      exact absurd (unique.bounded id row) (by omega)

variable {guarded : Prop} {after : StorageManager}

theorem change (change : Change guarded manager after) :
    Unique after := by
  cases change with
  | request live requested =>
    exact unique.setEntity fun _ seen => seen.touched requested.touched
  | @broadcast id live =>
    have touched : Unique (manager.setEntity id (manager.entity id).updateProperties) :=
      unique.setEntity fun _ seen =>
        seen.touched (LocatedEntity.updateProperties_touched (manager.entity id))
    unfold StorageManager.updateProperties
    dsimp only
    split
    · exact touched.onUpdated id
    · exact touched
  | @notify id connected => exact unique.entityUpdated id
  | @hang id loc registered notBase movable => exact unique.hang id loc
  | disturb => exact unique.setEntity fun _ seen => seen
  | enroll loc fresh created => exact unique.enroll queues loc fresh created
  | detach destroyed => exact unique.setEntity fun _ seen => seen
  | @drop id rest front => exact unique.dropFront id
  | store front => exact unique.storeFront queues front
  | update front => exact unique.updateFront queues front
  | complete queries => exact ⟨unique.commands, unique.bounded, unique.unstored, unique.seen⟩

theorem changes (changes : Changes guarded manager after) : Unique after := by
  induction changes with
  | refl => exact unique
  | tail earlier last ih => exact ih.change (queues.changes earlier) last

end

theorem step (unique : Unique manager) (settled : Settled manager) (action : Action) :
    Unique (manager.step action) := by
  obtain changes | ⟨id, leaving, _, registered, notBase, state, changes, frame, same⟩ :=
    step_changes False settled.queues settled.alive action (fun absurd => absurd.elim)
  · exact unique.changes settled.queues changes
  · have condemned : Unique (manager.condemn id) := unique.setEntity fun _ seen => seen
    have told := (condemned.changes (settled.queues.condemn notBase) changes).onUpdated id
    rw [same]
    exact ⟨told.commands, told.bounded, told.unstored, told.seen⟩

end Unique

/-- No identifier is used again. -/
def RestartsEmpty (manager : StorageManager) : Event → Prop
  | .action _ => True
  | .restart _ accounts => NothingStored manager.database ∧
      ∀ id name, manager.database.hasProperty id name →
        id ≤ registerEntityIdGenerator manager.database accounts

theorem le_foldl_max (numbers : List Nat) (start : Nat) :
    start ≤ numbers.foldl max start ∧ ∀ number ∈ numbers, number ≤ numbers.foldl max start := by
  induction numbers generalizing start with
  | nil => simp
  | cons number rest ih =>
    obtain ⟨larger, rest⟩ := ih (max start number)
    rw [foldl_cons]
    refine ⟨(le_max_left ..).trans larger, ?_⟩
    intro other member
    rcases List.mem_cons.mp member with rfl | later
    · exact (le_max_right ..).trans larger
    · exact rest other later

theorem le_registerEntityIdGenerator {database : Database} (accounts : Nat)
    (row : database.hasEntity id) : id ≤ registerEntityIdGenerator database accounts := by
  obtain ⟨row, member, rfl⟩ := row
  exact (le_foldl_max _ accounts).2 _ (List.mem_map_of_mem member)

variable (types : Inheritance) (accounts : Nat)

theorem initWorld_unique {commands : List Command}
    (fresh : Admissible Database.exec FreshInsert Database.initial commands)
    (nothing : NothingStored (run Database.exec Database.initial commands))
    (bounded : ∀ id name, (run Database.exec Database.initial commands).hasProperty id name →
      id ≤ registerEntityIdGenerator (run Database.exec Database.initial commands) accounts) :
    Unique (create types accounts commands).initWorld := by
  refine ⟨fresh, ?_, ?_, ?_⟩
  · rintro id (row | ⟨name, row⟩)
    · exact le_registerEntityIdGenerator accounts row
    · exact bounded id name row
  · exact fun id waiting => absurd waiting not_mem_nil
  · rintro id connected name ⟨row, member, isId, _⟩
    have isBase : id = baseId := Finset.mem_singleton.mp connected
    have selected :
        row ∈ (run Database.exec Database.initial commands).selectProperties baseId := by
      rw [Database.selectProperties, mem_filter]
      exact ⟨member, by simp [isId, isBase]⟩
    rw [nothing.2] at selected
    exact absurd selected not_mem_nil

theorem handle_unique {event : Event} (settled : Settled manager) (unique : Unique manager)
    (empty : manager.RestartsEmpty event) :
    Settled (manager.handle event) ∧ Unique (manager.handle event) := by
  cases event with
  | action action => exact ⟨settled.step action, unique.step settled action⟩
  | restart types accounts =>
    rw [handle, start_of_nothingStored types accounts empty.1]
    exact ⟨initWorld_settled types accounts _,
      initWorld_unique types accounts unique.commands empty.1 empty.2⟩

/-- Each entity and each property is inserted once, as long as every restart finds an empty world.
-/
theorem run_rows_unique (events : List Event)
    (admissible : Admissible handle RestartsEmpty (start types accounts []) events) :
    Admissible Database.exec FreshInsert Database.initial
        (run handle (start types accounts []) events).commands ∧
      ∀ id ∈ (run handle (start types accounts []) events).unstoredEntities,
        ¬ (run handle (start types accounts []) events).database.hasEntity id := by
  have unique : Unique (start types accounts []) := by
    rw [start_of_nothingStored types accounts ⟨rfl, rfl⟩]
    refine initWorld_unique types accounts trivial ⟨rfl, rfl⟩ ?_
    rintro id name ⟨row, member, _⟩
    exact absurd member not_mem_nil
  have inv := run_invariant (fun manager => Settled manager ∧ Unique manager)
    (fun manager event holds empty => handle_unique holds.1 holds.2 empty)
    ⟨start_nil_settled types accounts, unique⟩ admissible
  exact ⟨inv.2.commands, fun id waiting row => inv.2.unstored id waiting (.inl row)⟩

theorem run_rows_unique_apple :
    Admissible Database.exec FreshInsert Database.initial
        (run handle (start plainTypes 0 []) [.restart plainTypes 5,
          .action (.insert 6 "apple" 0 [("ripe", .int 1)] false), .action (.tick [])]).commands ∧
      ∀ id ∈ (run handle (start plainTypes 0 []) [.restart plainTypes 5,
          .action (.insert 6 "apple" 0 [("ripe", .int 1)] false),
          .action (.tick [])]).unstoredEntities,
        ¬ (run handle (start plainTypes 0 []) [.restart plainTypes 5,
          .action (.insert 6 "apple" 0 [("ripe", .int 1)] false),
          .action (.tick [])]).database.hasEntity id := by
  apply run_rows_unique
  refine ⟨⟨⟨rfl, rfl⟩, ?_⟩, trivial, trivial, trivial⟩
  rintro id name ⟨row, member, _⟩
  exact absurd member not_mem_nil

/-- Stored again after a restart. -/
theorem restoredApple_inserted_twice :
    ¬ ∀ (types : Inheritance) (accounts : Nat) (events : List Event),
      Admissible Database.exec FreshInsert Database.initial
          (run handle (start types accounts []) events).commands ∧
        ∀ id ∈ (run handle (start types accounts []) events).unstoredEntities,
          ¬ (run handle (start types accounts []) events).database.hasEntity id := by
  intro insertsFresh
  have twice := (insertsFresh plainTypes 0 [.action (.insert 1 "apple" 0 [("ripe", .int 1)] false),
    .action (.tick []), .restart plainTypes 0, .action (.tick [])]).1
  revert twice
  decide +kernel

end StorageManager

end Cyphesis.Server
