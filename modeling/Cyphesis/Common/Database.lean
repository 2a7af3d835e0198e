import Cyphesis.Atlas.Element
import Cyphesis.Foundation.Run
import Mathlib.Data.List.Basic

/-!
# The database

The two tables the storage manager writes: a row for every entity, and one for every property. The
text of the location column, which is always the same, and the table of thoughts, which is never
read, are left out.
-/

namespace Cyphesis.Common

open Cyphesis.Atlas List
open Cyphesis.Foundation

/-- A row of the table `entities`. -/
structure EntityRow where
  id : Nat
  loc : Option Nat
  type : String
  seq : Int

/-- A row of the table `properties`. -/
structure PropertyRow where
  id : Nat
  name : String
  value : Element

/-- The tables for entities and for properties. -/
structure Database where
  entities : List EntityRow
  properties : List PropertyRow

/-- Commands that are scheduled. -/
inductive Command where
  | insertEntity (id : Nat) (loc : Option Nat) (type : String) (seq : Int)
  | updateEntity (id : Nat) (seq : Int) (loc : Nat)
  | updateEntityWithoutLoc (id : Nat) (seq : Int)
  | insertProperties (id : Nat) (tuples : List (String × Element))
  | updateProperty (id : Nat) (name : String) (value : Element)
  | deleteProperties (id : Nat)
  | deleteEntity (id : Nat)
  | deleteThoughts (id : Nat)

namespace Database

/-- Tables with the row of the world. -/
def initial : Database :=
  { entities := [{ id := 0, loc := none, type := "world", seq := 0 }], properties := [] }

/-- There is a row for the entity. -/
def hasEntity (database : Database) (id : Nat) : Prop :=
  ∃ row ∈ database.entities, row.id = id

instance (database : Database) (id : Nat) : Decidable (database.hasEntity id) :=
  inferInstanceAs (Decidable (∃ row ∈ database.entities, row.id = id))

def hasProperty (database : Database) (id : Nat) (name : String) : Prop :=
  ∃ row ∈ database.properties, row.id = id ∧ row.name = name

instance (database : Database) (id : Nat) (name : String) :
    Decidable (database.hasProperty id name) :=
  inferInstanceAs (Decidable (∃ row ∈ database.properties, row.id = id ∧ row.name = name))

/-- Some row belongs to the entity. -/
def hasRow (database : Database) (id : Nat) : Prop :=
  database.hasEntity id ∨ ∃ name, database.hasProperty id name

/-- Execute a command; an insert may fail. -/
def exec (database : Database) : Command → Database
  | .insertEntity id loc type seq =>
    if database.hasEntity id then database
    else
      { database with
        entities := database.entities ++ [{ id := id, loc := loc, type := type, seq := seq }] }
  | .updateEntity id seq loc =>
    { database with
      entities := database.entities.map fun row =>
        if row.id = id then { row with seq := seq, loc := some loc } else row }
  | .updateEntityWithoutLoc id seq =>
    { database with
      entities := database.entities.map fun row =>
        if row.id = id then { row with seq := seq } else row }
  | .insertProperties id tuples =>
    { database with
      properties := database.properties ++
        tuples.map fun tuple => { id := id, name := tuple.1, value := tuple.2 } }
  | .updateProperty id name value =>
    { database with
      properties := database.properties.map fun row =>
        if row.id = id ∧ row.name = name then { row with value := value } else row }
  | .deleteProperties id =>
    { database with properties := database.properties.filter fun row => row.id ≠ id }
  | .deleteEntity id =>
    { database with entities := database.entities.filter fun row => row.id ≠ id }
  | .deleteThoughts _ => database

def selectEntities (database : Database) (loc : Nat) : List EntityRow :=
  database.entities.filter fun row => row.loc = some loc

def selectProperties (database : Database) (id : Nat) : List PropertyRow :=
  database.properties.filter fun row => row.id = id

def dropEntity (id : Nat) : List Command :=
  [.deleteProperties id, .deleteEntity id, .deleteThoughts id]

variable (database : Database)

theorem hasEntity_exec (command : Command) (id : Nat) :
    (database.exec command).hasEntity id ↔
      match command with
      | .insertEntity inserted _ _ _ => id = inserted ∨ database.hasEntity id
      | .deleteEntity deleted => id ≠ deleted ∧ database.hasEntity id
      | _ => database.hasEntity id := by
  cases command with
  | insertEntity inserted loc type seq =>
    simp only [exec]
    split
    next present =>
      constructor
      · exact .inr
      · rintro (rfl | found)
        · exact present
        · exact found
    · simp [hasEntity, or_and_right, exists_or, eq_comm, or_comm]
  | deleteEntity deleted =>
    simp only [exec, hasEntity, mem_filter, decide_eq_true_eq]
    constructor
    · rintro ⟨row, ⟨member, different⟩, rfl⟩
      exact ⟨different, row, member, rfl⟩
    · rintro ⟨different, row, member, rfl⟩
      exact ⟨row, ⟨member, different⟩, rfl⟩
  | updateEntity updated seq loc =>
    simp only [exec, hasEntity, mem_map, exists_exists_and_eq_and]
    refine exists_congr fun row => and_congr_right fun _ => ?_
    split <;> rfl
  | updateEntityWithoutLoc updated seq =>
    simp only [exec, hasEntity, mem_map, exists_exists_and_eq_and]
    refine exists_congr fun row => and_congr_right fun _ => ?_
    split <;> rfl
  | insertProperties | updateProperty | deleteProperties | deleteThoughts => rfl

theorem hasProperty_exec (command : Command) (id : Nat) (name : String) :
    (database.exec command).hasProperty id name ↔
      match command with
      | .insertProperties inserted tuples =>
        (id = inserted ∧ name ∈ tuples.map Prod.fst) ∨ database.hasProperty id name
      | .deleteProperties deleted => id ≠ deleted ∧ database.hasProperty id name
      | _ => database.hasProperty id name := by
  cases command with
  | insertProperties inserted tuples =>
    simp only [exec, hasProperty, mem_append, or_and_right, exists_or, mem_map]
    rw [or_comm]
    apply or_congr
    · constructor
      · rintro ⟨_, ⟨tuple, member, rfl⟩, rfl, rfl⟩
        exact ⟨rfl, tuple, member, rfl⟩
      · rintro ⟨rfl, tuple, member, rfl⟩
        exact ⟨_, ⟨tuple, member, rfl⟩, rfl, rfl⟩
    · rfl
  | deleteProperties deleted =>
    simp only [exec, hasProperty, mem_filter, decide_eq_true_eq]
    constructor
    · rintro ⟨row, ⟨member, different⟩, rfl, rfl⟩
      exact ⟨different, row, member, rfl, rfl⟩
    · rintro ⟨different, row, member, rfl, rfl⟩
      exact ⟨row, ⟨member, different⟩, rfl, rfl⟩
  | updateProperty updated changed value =>
    simp only [exec, hasProperty, mem_map, exists_exists_and_eq_and]
    refine exists_congr fun row => and_congr_right fun _ => ?_
    split <;> rfl
  | insertEntity inserted loc type seq =>
    simp only [exec]
    split <;> rfl
  | updateEntity | updateEntityWithoutLoc | deleteEntity | deleteThoughts => rfl

theorem hasRow_dropEntity (dropped id : Nat) :
    (run exec database (dropEntity dropped)).hasRow id ↔ id ≠ dropped ∧ database.hasRow id := by
  simp only [dropEntity, run_cons, run_nil, hasRow, hasEntity_exec, hasProperty_exec]
  rw [exists_and_left, ← and_or_left]

end Database

end Cyphesis.Common
