import Cyphesis.Foundation.Run
import Cyphesis.Simulation.Destruction

/-!
# The containment forest of a running world

Operations are performed one after the other on a world that starts with the base entity.
-/

namespace Cyphesis.Simulation

open Cyphesis.Foundation

namespace World

variable {rules : Ruleset} {world : World} {id depth : Nat}

theorem Forest.delEntity (forest : Forest world) (registered : id ∈ world.eobjects)
    (movable : world.AllMovable id) : Forest (delEntity rules (depth + 2) world id) := by
  by_cases isBase : id = baseId
  · simpa [World.delEntity, isBase] using forest
  · obtain ⟨loc, locRegistered, above⟩ := forest.parentRegistered id registered isBase
    obtain ⟨emptied, isEmptied, emptiedForest, leaf, _⟩ := destroy_of_movable
      (delEntity_removesLeaves rules depth) forest isBase above locRegistered movable
      (fun _ _ => True) (fun _ _ _ _ _ _ _ => trivial) trivial
    have dismissed : Forest (World.dismiss rules emptied id) := emptiedForest.dismiss leaf isBase
    rw [World.delEntity, if_neg isBase, isEmptied]
    exact dismissed

/-- This amount destroys the entity. -/
def deletesAll (entity : Entity) (asked : Option Int) : Bool :=
  !entity.stackable ||
    (0 ≤ toInt32 (asked.getD 1) && toInt32 (entity.requireAmount - toInt32 (asked.getD 1)) ≤ 0)

/-- Entity that an operation destroys. -/
def destroys (world : World) : Operation → Option Nat
  | .delete id amount =>
    if id ∈ world.eobjects ∧ (world.entity id).destroyed = false ∧ id ≠ baseId ∧
        deletesAll (world.entity id) amount then some id
    else none
  | .forceDelete id => if id ∈ world.eobjects ∧ id ≠ baseId then some id else none
  | _ => none

theorem deleteOperation_cases (delEntity : World → Nat → World) (world : World) (id : Nat)
    (asked : Option Int) :
    deletesAll (world.entity id) asked = false ∧
        (toInt32 (asked.getD 1) < 0 ∧ deleteOperation delEntity world id asked = world ∨
          0 ≤ toInt32 (asked.getD 1) ∧
          0 < toInt32 ((world.entity id).requireAmount - toInt32 (asked.getD 1)) ∧
          (world.entity id).stackable = true ∧
          deleteOperation delEntity world id asked = world.setAmount id
            (toInt32 ((world.entity id).requireAmount - toInt32 (asked.getD 1)))) ∨
      deletesAll (world.entity id) asked = true ∧
        ((world.entity id).stackable = false ∧
            deleteOperation delEntity world id asked = thingDeleteOperation delEntity world id ∨
          (world.entity id).stackable = true ∧
            deleteOperation delEntity world id asked = thingDeleteOperation delEntity
              (world.setAmount id (world.entity id).requireAmount) id) := by
  unfold deleteOperation deletesAll
  dsimp only
  split
  · next stackable =>
      split
      · next negative =>
          refine .inl ⟨?_, .inl ⟨negative, rfl⟩⟩
          simp [stackable, negative]
      · next notNegative =>
          split
          · next remains =>
              refine .inl ⟨?_, .inr ⟨by omega, remains, stackable, ?_⟩⟩
              · simp [stackable, remains]
              · simp [setAmount, modify]
          · next nothing =>
              refine .inr ⟨?_, .inr ⟨stackable, rfl⟩⟩
              simp only [Bool.or_eq_true, Bool.and_eq_true, decide_eq_true_eq]
              exact .inr ⟨by omega, by omega⟩
  · next single =>
      rw [Bool.not_eq_true] at single
      exact .inr ⟨by simp [single], .inl ⟨single, rfl⟩⟩

theorem Forest.deleteOperation (forest : Forest world) (registered : id ∈ world.eobjects)
    {asked : Option Int}
    (movable : deletesAll (world.entity id) asked = true → world.AllMovable id) :
    Forest (World.deleteOperation (World.delEntity rules (depth + 2)) world id asked) := by
  have deleted : ∀ changed, SameShape world changed → changed.AllMovable id →
      Forest (thingDeleteOperation (World.delEntity rules (depth + 2)) changed id) := by
    intro changed shape stillMovable
    unfold thingDeleteOperation
    split
    · exact forest.of_sameShape shape
    · exact (forest.of_sameShape shape).delEntity (shape.eobjects ▸ registered) stillMovable
  have shape := setAmount_sameShape world id
  rcases deleteOperation_cases (World.delEntity rules (depth + 2)) world id asked with
    ⟨_, ⟨_, same⟩ | ⟨_, _, _, less⟩⟩ | ⟨all, ⟨_, isDeleted⟩ | ⟨_, isDeleted⟩⟩
  · rw [same]
    exact forest
  · rw [less]
    exact forest.of_sameShape (shape _)
  · rw [isDeleted]
    exact deleted world (SameShape.refl world) (movable all)
  · rw [isDeleted]
    refine deleted _ (shape _) ?_
    intro child member
    rw [(shape _).children] at member
    rw [setAmount_entity, if_neg (forest.child_ne member)]
    exact movable all child member

/-- No entity with a stack of more is destroyed. -/
def StrandsNothing (world : World) (operation : Operation) : Prop :=
  ∀ id ∈ destroys world operation, world.AllMovable id

instance (world : World) (operation : Operation) : Decidable (world.StrandsNothing operation) :=
  inferInstanceAs (Decidable (∀ id ∈ destroys world operation, world.AllMovable id))

theorem Forest.perform (forest : Forest world) {operation : Operation}
    (guarded : world.StrandsNothing operation) :
    Forest (perform rules (depth + 2) world operation) := by
  cases operation with
  | addNewEntity tree loc =>
    exact (addNewEntity_forest (delEntity_removesLeaves rules (depth + 1)) forest tree loc).1
  | move id argument => exact forest.moveOperation argument
  | delete id amount =>
    simp only [World.perform]
    split
    · next delivered =>
        refine forest.deleteOperation delivered.1 ?_
        intro all
        refine guarded id ?_
        simp [destroys, delivered, all]
    · exact forest
  | forceDelete id =>
    simp only [World.perform]
    split
    · next registered =>
        by_cases isBase : id = baseId
        · simpa [World.delEntity, isBase] using forest
        · refine forest.delEntity registered (guarded id ?_)
          simp [destroys, registered, isBase]
    · exact forest

/-- A world with only the base entity. -/
def initial (rules : Ruleset) (attributes : EntityAttributes) : World where
  entity _ := newEntity rules attributes
  eobjects := {baseId}
  nextId := 1

theorem Forest.initial (rules : Ruleset) (attributes : EntityAttributes) :
    Forest (World.initial rules attributes) where
  baseRegistered := Finset.mem_singleton_self baseId
  baseTop := rfl
  parentRegistered := by
    intro id registered notBase
    exact absurd (Finset.mem_singleton.mp registered) notBase
  memChildren := by
    intro id parent
    exact iff_of_false List.not_mem_nil nofun
  nodup _ := List.nodup_nil
  grounded id := ⟨id, rfl, Reaches.refl _ id⟩
  fresh := by
    intro id isFresh
    refine ⟨?_, rfl, fun _ => nofun⟩
    rw [World.initial, Finset.mem_singleton, baseId]
    have positive : 1 ≤ id := isFresh
    omega

/-- Links agree, and going up leads to the base. -/
structure Contained (world : World) : Prop where
  agree : ∀ id ∈ world.eobjects, ∀ parent ∈ world.eobjects,
    world.parentOf id = some parent ↔ id ∈ world.childrenOf parent
  hasParent : ∀ id ∈ world.eobjects, id ≠ baseId →
    ∃ parent ∈ world.eobjects, world.parentOf id = some parent
  reachesBase : ∀ id ∈ world.eobjects, Reaches world.parentOf id baseId

theorem Forest.contained (forest : Forest world) : Contained world where
  agree id _ parent _ := (forest.memChildren id parent).symm
  hasParent := forest.parentRegistered
  reachesBase _ registered := forest.reaches_base registered

/-- In every run in which no entity with a stackable child of another amount than one is destroyed,
each entity but the base one is registered and in the contents of its parent. -/
theorem run_contained (rules : Ruleset) (attributes : EntityAttributes) (depth : Nat)
    (operations : List Operation)
    (admissible : Admissible (perform rules (depth + 2)) StrandsNothing
      (initial rules attributes) operations) :
    Contained (run (perform rules (depth + 2)) (initial rules attributes) operations) := by
  have forest : Forest (run (World.perform rules (depth + 2)) (initial rules attributes)
      operations) :=
    run_invariant Forest (fun _ _ forest guarded => forest.perform guarded)
      (Forest.initial rules attributes) admissible
  exact forest.contained

/-- A world with chests and coins. -/
def chestRules : Ruleset where
  address entity := entity
  typeDomain type :=
    if type = "world" then some .void
    else if type = "chest" then some .container
    else if type = "coin" then some .stackable
    else none
  typeAmount _ := none
  received _ properties := properties
  released _ properties := properties

/-- Attributes of a mere type. -/
def plainAttributes (type : String) : EntityAttributes :=
  { type := type, domain := none, amount := none, properties := [] }

/-- A stack of coins in a chest. -/
def chestOf (amount : Int) : EntityTree :=
  .node (plainAttributes "chest")
    [.node { type := "coin", domain := none, amount := some amount, properties := [] } []]

theorem run_contained_singleCoin :
    Admissible (perform chestRules 2) StrandsNothing (initial chestRules (plainAttributes "world"))
        [.addNewEntity (chestOf 1) baseId, .forceDelete 1] ∧
      Contained (run (perform chestRules 2) (initial chestRules (plainAttributes "world"))
        [.addNewEntity (chestOf 1) baseId, .forceDelete 1]) := by
  have admissible : Admissible (perform chestRules 2) StrandsNothing
      (initial chestRules (plainAttributes "world"))
      [.addNewEntity (chestOf 1) baseId, .forceDelete 1] := by
    decide +kernel
  exact ⟨admissible, run_contained chestRules (plainAttributes "world") 0 _ admissible⟩

/-- A chest with five coins is destroyed. -/
def strandedCoins : World :=
  run (perform chestRules 2) (initial chestRules (plainAttributes "world"))
    [.addNewEntity (chestOf 5) baseId, .forceDelete 1]

/-- Registered, but cut off from the base. -/
theorem strandedCoins_not_contained :
    2 ∈ strandedCoins.eobjects ∧ ¬ Reaches strandedCoins.parentOf 2 baseId := by
  have inChest : strandedCoins.parentOf 2 = some 1 := by decide +kernel
  have isTop : strandedCoins.parentOf 1 = none := by decide +kernel
  refine ⟨by decide +kernel, ?_⟩
  intro reaches
  obtain ⟨chest, isParent, further⟩ := reaches.parent_of_ne (by decide)
  rw [inChest, Option.some.injEq] at isParent
  subst isParent
  obtain ⟨above, isAbove, _⟩ := further.parent_of_ne (by decide)
  rw [isTop] at isAbove
  cases isAbove

end World

end Cyphesis.Simulation
