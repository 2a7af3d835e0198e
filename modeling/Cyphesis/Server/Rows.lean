import Cyphesis.Server.Queues

/-!
# The rows that the commands leave

Which rows the tables have after the commands of an insert or of an update.
-/

namespace Cyphesis.Server

open Cyphesis.Atlas List
open Cyphesis.Common
open Cyphesis.Foundation
open Cyphesis.Rules

variable {wanted : SoftProperty → Bool} (database : Database)

section

variable {entity : LocatedEntity} {tuple : String × Element}

theorem propertyTuple_eq_some {name : String} {entry : ModifiableProperty} :
    propertyTuple wanted entity name entry = some tuple ↔
      ∃ property, entry.property = some property ∧ wanted property = true ∧
        tuple = (name, storedValue entity name entry property) := by
  unfold propertyTuple
  cases entry.property with
  | none => simp
  | some property =>
    dsimp only
    constructor
    · intro chosen
      split at chosen
      next isWanted => exact ⟨property, rfl, isWanted, (Option.some.inj chosen).symm⟩
      · contradiction
    · rintro ⟨found, same, isWanted, rfl⟩
      rw [← Option.some.inj same] at isWanted ⊢
      exact if_pos isWanted

theorem mem_propertyTuples :
    tuple ∈ propertyTuples wanted entity ↔
      ∃ entry property, entity.properties[tuple.1]? = some entry ∧
        entry.property = some property ∧ wanted property = true ∧
        tuple.2 = storedValue entity tuple.1 entry property := by
  simp only [propertyTuples, mem_filterMap, Prod.exists, propertyTuple_eq_some,
    Std.TreeMap.mem_toList_iff_getElem?_eq_some]
  constructor
  · rintro ⟨name, entry, found, property, isProperty, isWanted, rfl⟩
    exact ⟨entry, property, found, isProperty, isWanted, rfl⟩
  · rintro ⟨entry, property, found, isProperty, isWanted, value⟩
    exact ⟨tuple.1, entry, found, property, isProperty, isWanted, Prod.ext rfl value⟩

end

theorem mem_propertyTuples_names {entity : LocatedEntity} {name : String} :
    name ∈ (propertyTuples wanted entity).map Prod.fst ↔
      ∃ property, entity.propertyAt name = some property ∧ wanted property = true := by
  simp only [mem_map, mem_propertyTuples, LocatedEntity.propertyAt, Option.bind_eq_some_iff]
  constructor
  · rintro ⟨tuple, ⟨entry, property, found, isProperty, isWanted, _⟩, rfl⟩
    exact ⟨property, ⟨entry, found, isProperty⟩, isWanted⟩
  · rintro ⟨property, ⟨entry, found, isProperty⟩, isWanted⟩
    exact ⟨(name, storedValue entity name entry property),
      ⟨entry, property, found, isProperty, isWanted, rfl⟩, rfl⟩

theorem propertyTuples_nodup (wanted : SoftProperty → Bool) (entity : LocatedEntity) :
    ((propertyTuples wanted entity).map Prod.fst).Nodup := by
  have distinct := Std.TreeMap.distinct_keys_toList (t := entity.properties)
  rw [List.Nodup, pairwise_map]
  refine List.Pairwise.filterMap _ ?_ distinct
  intro first second different firstTuple chosen secondTuple chosen'
  obtain ⟨_, _, _, rfl⟩ := propertyTuple_eq_some.mp chosen
  obtain ⟨_, _, _, rfl⟩ := propertyTuple_eq_some.mp chosen'
  rwa [Std.LawfulEqCmp.compare_eq_iff_eq] at different

theorem applyLocation_propertyAt (entity : LocatedEntity) (name : String) :
    entity.applyLocation.propertyAt name =
      (entity.propertyAt name).map fun property =>
        if name = LocatedEntity.locName then property.addFlags propFlagUnsent else property := by
  unfold LocatedEntity.applyLocation
  by_cases isLoc : name = LocatedEntity.locName
  · subst isLoc
    split
    next missing => simp [LocatedEntity.propertyAt, missing]
    next property found => simp [LocatedEntity.propertyAt, found, LocatedEntity.applyProperty]
  · split
    · simp [isLoc]
    · simp [LocatedEntity.propertyAt, LocatedEntity.applyProperty, Std.TreeMap.getElem?_insert,
        isLoc, Ne.symm isLoc]

variable (inserted : Nat)

variable (tuples : List (String × Element))

theorem hasProperty_insertProperties (id : Nat) (name : String) :
    (run Database.exec database (insertProperties inserted tuples)).hasProperty id name ↔
      (id = inserted ∧ name ∈ tuples.map Prod.fst) ∨ database.hasProperty id name := by
  unfold insertProperties
  split
  next empty => simp [List.isEmpty_iff.mp empty]
  · rw [run_cons, run_nil, Database.hasProperty_exec]

theorem hasEntity_insertProperties (id : Nat) :
    (run Database.exec database (insertProperties inserted tuples)).hasEntity id ↔
      database.hasEntity id := by
  unfold insertProperties
  split
  · rfl
  · rw [run_cons, run_nil, Database.hasEntity_exec]

theorem hasEntity_updateProperties (updated : Nat) (tuples : List (String × Element)) (id : Nat) :
    (run Database.exec database
      (tuples.map fun tuple => .updateProperty updated tuple.1 tuple.2)).hasEntity id ↔
      database.hasEntity id := by
  induction tuples generalizing database with
  | nil => rfl
  | cons tuple rest ih => rw [map_cons, run_cons, ih, Database.hasEntity_exec]

theorem hasProperty_updateProperties (updated : Nat) (tuples : List (String × Element)) (id : Nat)
    (name : String) :
    (run Database.exec database
      (tuples.map fun tuple => .updateProperty updated tuple.1 tuple.2)).hasProperty id name ↔
      database.hasProperty id name := by
  induction tuples generalizing database with
  | nil => rfl
  | cons tuple rest ih => rw [map_cons, run_cons, ih, Database.hasProperty_exec]

theorem hasEntity_insertCommands (entity : LocatedEntity) (id : Nat) :
    (run Database.exec database (insertCommands inserted entity)).hasEntity id ↔
      id = inserted ∨ database.hasEntity id := by
  rw [insertCommands, run_cons, hasEntity_insertProperties, Database.hasEntity_exec]

theorem hasProperty_insertCommands (entity : LocatedEntity) (id : Nat) (name : String) :
    (run Database.exec database (insertCommands inserted entity)).hasProperty id name ↔
      (id = inserted ∧ name ∈ (propertyTuples isPersistent entity).map Prod.fst) ∨
        database.hasProperty id name := by
  rw [insertCommands, run_cons, hasProperty_insertProperties, Database.hasProperty_exec]

theorem hasRow_insertCommands {entity : LocatedEntity} {id : Nat}
    (row : (run Database.exec database (insertCommands inserted entity)).hasRow id) :
    id = inserted ∨ database.hasRow id := by
  rcases row with row | ⟨name, row⟩
  · exact ((hasEntity_insertCommands ..).mp row).imp_right .inl
  · exact ((hasProperty_insertCommands ..).mp row).imp And.left (.inr ⟨name, ·⟩)

section

variable (updated : Nat) (entity : LocatedEntity) (id : Nat)

include updated entity id

theorem hasEntity_updateRow :
    (database.exec (updateRow updated entity)).hasEntity id ↔ database.hasEntity id := by
  unfold updateRow
  split <;> rw [Database.hasEntity_exec]

theorem hasProperty_updateRow (name : String) :
    (database.exec (updateRow updated entity)).hasProperty id name ↔
      database.hasProperty id name := by
  unfold updateRow
  split <;> rw [Database.hasProperty_exec]

theorem hasEntity_updateCommands :
    (run Database.exec database (updateCommands updated entity)).hasEntity id ↔
      database.hasEntity id := by
  rw [updateCommands, run_cons, run_append, hasEntity_updateProperties,
    hasEntity_insertProperties, hasEntity_updateRow]

theorem hasProperty_updateCommands (name : String) :
    (run Database.exec database (updateCommands updated entity)).hasProperty id name ↔
      (id = updated ∧ name ∈ (propertyTuples isNew entity).map Prod.fst) ∨
        database.hasProperty id name := by
  rw [updateCommands, run_cons, run_append, hasProperty_updateProperties,
    hasProperty_insertProperties, hasProperty_updateRow]

end

theorem hasRow_updateCommands {updated id : Nat} {entity : LocatedEntity}
    (row : (run Database.exec database (updateCommands updated entity)).hasRow id) :
    (id = updated ∧ propertyTuples isNew entity ≠ []) ∨ database.hasRow id := by
  rcases row with row | ⟨name, row⟩
  · exact .inr (.inl ((hasEntity_updateCommands ..).mp row))
  · rcases (hasProperty_updateCommands ..).mp row with ⟨isId, new⟩ | row
    · refine .inl ⟨isId, fun none => ?_⟩
      rw [none] at new
      exact not_mem_nil new
    · exact .inr (.inr ⟨name, row⟩)

namespace StorageManager

variable (manager : StorageManager)

theorem database_schedule (commands : List Command) :
    (manager.schedule commands).database = run Database.exec manager.database commands :=
  run_append ..

theorem hasRow_dropFront (id other : Nat) :
    (manager.dropFront id).database.hasRow other ↔ other ≠ id ∧ manager.database.hasRow other := by
  have scheduled : (manager.dropFront id).database = _ :=
    manager.database_schedule (Database.dropEntity id)
  rw [scheduled, Database.hasRow_dropEntity]

end StorageManager

end Cyphesis.Server
