import Cyphesis.Atlas.Element
import Cyphesis.Foundation.Run
import Mathlib.Logic.Function.Basic
import Mathlib.Tactic.SplitIfs

/-!
# Aliases

The world maps aliases to entities.
-/

namespace Cyphesis.Simulation

open Cyphesis.Atlas
open Cyphesis.Foundation
open Function

/-- With both `__alias` properties. -/
structure AliasedEntity where
  typeDefault : Option String
  own : Option String
  isDestroyed : Bool

/-- Value of the alias property. -/
def AliasedEntity.aliasName (entity : AliasedEntity) : Option String :=
  entity.own.or entity.typeDefault

/-- `Property<std::string>::set` -/
def setString (data : String) : Element → String
  | .string value => value
  | _ => data

/-- What `setAttr` makes of the alias. -/
def AliasedEntity.aliasAfter (entity : AliasedEntity) (value : Element) : String :=
  setString (entity.aliasName.getD "") value

structure AliasWorld where
  entities : Nat → Option AliasedEntity
  entityAliases : String → Option Nat

/-- What happens to the alias property of entities. -/
inductive AliasEvent where
  /-- With an alias by its type, and with one of its own, which is applied in its place. -/
  | create (id : Nat) (typeDefault : Option String) (own : Option Element)
  | setAttr (id : Nat) (value : Element)
  | applyProperty (id : Nat)
  /-- Set, if it is not nothing. -/
  | modProperty (id : Nat) (defVal : Element)
  | removeProperty (id : Nat)
  | destroy (id : Nat)
  /-- The destructor. -/
  | delete (id : Nat)

namespace AliasWorld

def initial : AliasWorld :=
  { entities := fun _ => none, entityAliases := fun _ => none }

def registerAlias (world : AliasWorld) (name : String) (id : Nat) : AliasWorld :=
  match world.entityAliases name with
  | none => { world with entityAliases := update world.entityAliases name (some id) }
  | some _ => world

def deregisterAlias (world : AliasWorld) (name : String) (id : Nat) : AliasWorld :=
  if world.entityAliases name = some id then
    { world with entityAliases := update world.entityAliases name none }
  else world

def setEntity (world : AliasWorld) (id : Nat) (entity : Option AliasedEntity) : AliasWorld :=
  { world with entities := update world.entities id entity }

/-- `AliasProperty::apply` for what the entity has. -/
def applyAlias (world : AliasWorld) (id : Nat) (entity : AliasedEntity) : AliasWorld :=
  match entity.aliasName with
  | some name => world.registerAlias name id
  | none => world

/-- Its own hides that of the type. -/
def clearProperties (world : AliasWorld) (id : Nat) (entity : AliasedEntity) : AliasWorld :=
  match entity.aliasName with
  | some name => world.deregisterAlias name id
  | none => world

/-- Give it one, and apply it. -/
def assignAlias (world : AliasWorld) (id : Nat) (entity : AliasedEntity) (name : String) :
    AliasWorld :=
  let changed := { entity with own := some name }
  (world.setEntity id (some changed)).applyAlias id changed

def perform (world : AliasWorld) : AliasEvent → AliasWorld
  | .create id typeDefault own =>
    match world.entities id with
    | some _ => world
    | none =>
      let entity : AliasedEntity :=
        { typeDefault := typeDefault
          own := own.map (setString (typeDefault.getD ""))
          isDestroyed := false }
      (world.setEntity id (some entity)).applyAlias id entity
  | .setAttr id value =>
    match world.entities id with
    | none => world
    | some entity => world.assignAlias id entity (entity.aliasAfter value)
  | .applyProperty id =>
    match world.entities id with
    | none => world
    | some entity => world.applyAlias id entity
  | .modProperty id defVal =>
    match world.entities id with
    | none => world
    | some entity =>
      match entity.own, entity.typeDefault with
      | none, some name =>
        (world.deregisterAlias name id).assignAlias id entity (setString name defVal)
      | _, _ => world
  | .removeProperty id =>
    match world.entities id with
    | none => world
    | some entity =>
      match entity.own with
      | none => world
      | some name =>
        (world.deregisterAlias name id).setEntity id (some { entity with own := none })
  | .destroy id =>
    match world.entities id with
    | none => world
    | some entity =>
      (world.clearProperties id entity).setEntity id (some { entity with isDestroyed := true })
  | .delete id =>
    match world.entities id with
    | none => world
    | some entity =>
      (if entity.isDestroyed then world else world.clearProperties id entity).setEntity id none

/-- There, with this alias. -/
def BearsAs (entity : Option AliasedEntity) (name : String) : Prop :=
  ∃ found, entity = some found ∧ found.isDestroyed = false ∧ found.aliasName = some name

/-- Every alias refers to an entity that has it. -/
def Registered (world : AliasWorld) : Prop :=
  ∀ name id, world.entityAliases name = some id → BearsAs (world.entities id) name

/-- Sets keep aliases, and the destroyed rest. -/
def Keeps (world : AliasWorld) : AliasEvent → Prop
  | .setAttr id value => ∀ entity, world.entities id = some entity →
      if entity.isDestroyed then world.entityAliases (entity.aliasAfter value) ≠ none
      else ∀ name, entity.aliasName = some name → world.entityAliases name = some id →
        entity.aliasAfter value = name
  | .applyProperty id => ∀ entity, world.entities id = some entity → entity.isDestroyed = true →
      ∀ name, entity.aliasName = some name → world.entityAliases name ≠ none
  | .modProperty id defVal => ∀ entity, world.entities id = some entity →
      entity.isDestroyed = true → entity.own = none →
        ∀ name, entity.typeDefault = some name → world.entityAliases (setString name defVal) ≠ none
  | _ => True

variable {world : AliasWorld} {id : Nat} {name : String} {entity : AliasedEntity}

theorem setEntity_registered_iff (registered : world.Registered) (after : Option AliasedEntity) :
    (world.setEntity id after).Registered ↔
      ∀ name, world.entityAliases name = some id → BearsAs after name := by
  unfold Registered setEntity
  dsimp only
  constructor
  · intro isRegistered name isEntry
    simpa using isRegistered name id isEntry
  · intro bears name other isEntry
    by_cases isId : other = id
    · subst isId
      rw [update_self]
      exact bears name isEntry
    · rw [update_of_ne isId]
      exact registered name other isEntry

theorem registerAlias_registered_iff :
    (world.registerAlias name id).Registered ↔
      world.Registered ∧ (world.entityAliases name = none → BearsAs (world.entities id) name) := by
  unfold registerAlias
  cases isFree : world.entityAliases name with
  | some other => simp
  | none =>
    constructor
    · intro registered
      constructor
      · intro other owner isEntry
        have different : other ≠ name := by
          rintro rfl
          rw [isFree] at isEntry
          cases isEntry
        apply registered other owner
        exact (update_of_ne different _ _).trans isEntry
      · intro _
        exact registered name id (update_self ..)
    · rintro ⟨registered, bears⟩ other owner isEntry
      replace isEntry : update world.entityAliases name (some id) other = some owner :=
        isEntry
      by_cases same : other = name
      · subst same
        rw [update_self, Option.some.injEq] at isEntry
        subst isEntry
        exact bears rfl
      · rw [update_of_ne same] at isEntry
        exact registered other owner isEntry

theorem deregisterAlias_entityAliases {other : String} {owner : Nat} :
    (world.deregisterAlias name id).entityAliases other = some owner ↔
      world.entityAliases other = some owner ∧ ¬ (other = name ∧ owner = id) := by
  unfold deregisterAlias
  split_ifs with isEntry
  · by_cases same : other = name
    · subst same
      simp only [update_self, isEntry, Option.some.injEq]
      constructor
      · intro isNone
        cases isNone
      · rintro ⟨rfl, notSame⟩
        exact absurd ⟨trivial, rfl⟩ notSame
    · simp [same]
  · constructor
    · intro isOwner
      refine ⟨isOwner, ?_⟩
      rintro ⟨rfl, rfl⟩
      exact isEntry isOwner
    · exact And.left

theorem deregisterAlias_entities : (world.deregisterAlias name id).entities = world.entities := by
  unfold deregisterAlias
  split_ifs
  · rfl
  · rfl

section

variable (registered : world.Registered)

include registered

theorem Registered.deregisterAlias (name : String) (id : Nat) :
    (world.deregisterAlias name id).Registered := by
  intro other owner isEntry
  rw [deregisterAlias_entities]
  exact registered other owner (deregisterAlias_entityAliases.mp isEntry).1

section

variable (isEntity : world.entities id = some entity)

include isEntity

theorem Registered.alias_eq
    (isEntry : world.entityAliases name = some id) :
    entity.isDestroyed = false ∧ entity.aliasName = some name := by
  obtain ⟨found, isFound, bears⟩ := registered name id isEntry
  rw [isEntity] at isFound
  cases isFound
  exact bears

theorem Registered.none_of_deregistered
    (isAlias : entity.aliasName = some name) (other : String) :
    (world.deregisterAlias name id).entityAliases other ≠ some id := by
  intro isEntry
  obtain ⟨wasEntry, notSame⟩ := deregisterAlias_entityAliases.mp isEntry
  have bears := (registered.alias_eq isEntity wasEntry).2
  rw [isAlias, Option.some.injEq] at bears
  exact notSame ⟨bears.symm, rfl⟩

theorem Registered.clearProperties :
    (world.clearProperties id entity).Registered ∧
      ∀ other, (world.clearProperties id entity).entityAliases other ≠ some id := by
  unfold AliasWorld.clearProperties
  cases isAlias : entity.aliasName with
  | some name =>
    exact ⟨registered.deregisterAlias name id, registered.none_of_deregistered isEntity isAlias⟩
  | none =>
    refine ⟨registered, fun other isEntry => ?_⟩
    have bears := (registered.alias_eq isEntity isEntry).2
    rw [isAlias] at bears
    cases bears

end

theorem assignAlias_registered_iff (value : String) :
    (world.assignAlias id entity value).Registered ↔
      (∀ name, world.entityAliases name = some id → entity.isDestroyed = false ∧ value = name) ∧
      (world.entityAliases value = none → entity.isDestroyed = false) := by
  have bears (name : String) : BearsAs (some { entity with own := some value }) name ↔
      entity.isDestroyed = false ∧ value = name := by
    simp [BearsAs, AliasedEntity.aliasName]
  have isSet : ((world.setEntity id (some { entity with own := some value })).entities id) =
      some { entity with own := some value } := update_self ..
  unfold assignAlias applyAlias
  dsimp only [AliasedEntity.aliasName, Option.some_or]
  rw [registerAlias_registered_iff, setEntity_registered_iff registered, isSet, bears]
  simp only [bears, and_true]
  rfl

theorem applyAlias_registered_iff (isEntity : world.entities id = some entity) :
    (world.applyAlias id entity).Registered ↔
      (entity.isDestroyed = true → ∀ name, entity.aliasName = some name →
        world.entityAliases name ≠ none) := by
  unfold applyAlias
  cases isAlias : entity.aliasName with
  | none => simp [registered]
  | some name =>
    dsimp only
    rw [registerAlias_registered_iff, isEntity]
    cases destroyed : entity.isDestroyed with
    | false => simp [registered, BearsAs, destroyed, isAlias]
    | true => simp [registered, BearsAs, destroyed]

theorem Registered.create (typeDefault : Option String) (own : Option Element) :
    (world.perform (.create id typeDefault own)).Registered := by
  rw [perform]
  cases isEntity : world.entities id with
  | some entity => exact registered
  | none =>
    have fresh : (world.setEntity id (some
        { typeDefault := typeDefault
          own := own.map (setString (typeDefault.getD ""))
          isDestroyed := false })).Registered := by
      rw [setEntity_registered_iff registered]
      intro name isEntry
      obtain ⟨found, isFound, -⟩ := registered name id isEntry
      rw [isEntity] at isFound
      cases isFound
    apply (applyAlias_registered_iff fresh (update_self ..)).mpr
    intro destroyed
    cases destroyed

theorem setAttr_registered_iff (value : Element) :
    (world.perform (.setAttr id value)).Registered ↔ world.Keeps (.setAttr id value) := by
  rw [perform, Keeps]
  cases isEntity : world.entities id with
  | none => simp [registered]
  | some entity =>
    dsimp only
    rw [assignAlias_registered_iff registered]
    simp only [Option.some.injEq, forall_eq']
    cases destroyed : entity.isDestroyed with
    | false =>
      constructor
      · rintro ⟨same, -⟩ name isAlias isEntry
        exact (same name isEntry).2
      · intro same
        refine ⟨fun name isEntry => ⟨rfl, ?_⟩, fun _ => rfl⟩
        exact same name (registered.alias_eq isEntity isEntry).2 isEntry
    | true =>
      constructor
      · rintro ⟨-, isTaken⟩ isFree
        cases isTaken isFree
      · intro isTaken
        refine ⟨fun name isEntry => ?_, fun isFree => absurd isFree isTaken⟩
        have alive := (registered.alias_eq isEntity isEntry).1
        rw [destroyed] at alive
        cases alive

theorem modProperty_registered_iff (defVal : Element) :
    (world.perform (.modProperty id defVal)).Registered ↔ world.Keeps (.modProperty id defVal) := by
  rw [perform, Keeps]
  cases isEntity : world.entities id with
  | none => simp [registered]
  | some entity =>
    dsimp only
    simp only [Option.some.injEq, forall_eq']
    cases isOwn : entity.own with
    | some own => simp [registered]
    | none =>
      cases isDefault : entity.typeDefault with
      | none => simp [registered]
      | some name =>
        have isAlias : entity.aliasName = some name := by
          simp [AliasedEntity.aliasName, isOwn, isDefault]
        have cleared := registered.none_of_deregistered isEntity isAlias
        dsimp only
        rw [assignAlias_registered_iff (registered.deregisterAlias name id)]
        cases destroyed : entity.isDestroyed with
        | false => simp [cleared]
        | true =>
          have unregistered : world.entityAliases name ≠ some id := by
            intro isEntry
            have alive := (registered.alias_eq isEntity isEntry).1
            rw [destroyed] at alive
            cases alive
          have same : world.deregisterAlias name id = world := if_neg unregistered
          rw [same] at cleared ⊢
          simp [cleared]

theorem Registered.removeProperty : (world.perform (.removeProperty id)).Registered := by
  rw [perform]
  cases isEntity : world.entities id with
  | none => exact registered
  | some entity =>
    dsimp only
    cases isOwn : entity.own with
    | none => exact registered
    | some name =>
      have isAlias : entity.aliasName = some name := by
        simp [AliasedEntity.aliasName, isOwn]
      apply (setEntity_registered_iff (registered.deregisterAlias name id) _).mpr
      intro other isEntry
      exact absurd isEntry (registered.none_of_deregistered isEntity isAlias other)

theorem Registered.destroy : (world.perform (.destroy id)).Registered := by
  rw [perform]
  cases isEntity : world.entities id with
  | none => exact registered
  | some entity =>
    obtain ⟨cleared, unregistered⟩ := registered.clearProperties isEntity
    apply (setEntity_registered_iff cleared _).mpr
    intro other isEntry
    exact absurd isEntry (unregistered other)

theorem Registered.delete : (world.perform (.delete id)).Registered := by
  rw [perform]
  cases isEntity : world.entities id with
  | none => exact registered
  | some entity =>
    dsimp only
    cases destroyed : entity.isDestroyed with
    | true =>
      apply (setEntity_registered_iff registered _).mpr
      intro other isEntry
      have alive := (registered.alias_eq isEntity isEntry).1
      rw [destroyed] at alive
      cases alive
    | false =>
      obtain ⟨cleared, unregistered⟩ := registered.clearProperties isEntity
      apply (setEntity_registered_iff cleared _).mpr
      intro other isEntry
      exact absurd isEntry (unregistered other)

theorem perform_registered_iff (event : AliasEvent) :
    (world.perform event).Registered ↔ world.Keeps event := by
  cases event with
  | create id typeDefault own => exact iff_of_true (registered.create typeDefault own) trivial
  | setAttr id value => exact setAttr_registered_iff registered value
  | applyProperty id =>
    rw [perform, Keeps]
    cases isEntity : world.entities id with
    | none => simp [registered]
    | some entity =>
      dsimp only
      rw [applyAlias_registered_iff registered isEntity]
      simp
  | modProperty id defVal => exact modProperty_registered_iff registered defVal
  | removeProperty id => exact iff_of_true registered.removeProperty trivial
  | destroy id => exact iff_of_true registered.destroy trivial
  | delete id => exact iff_of_true registered.delete trivial

end

/-- Each alias is registered for the entity that has it, just if no set leaves an alias behind. -/
theorem run_registered_iff (events : List AliasEvent) :
    (∀ count, (run perform initial (events.take count)).Registered) ↔
      Admissible perform Keeps initial events :=
  run_take_iff Registered (fun _ event registered => perform_registered_iff registered event)
    (fun _ _ isEntry => by cases isEntry) events

/-- Still found by its old alias. -/
theorem run_not_registered :
    ¬ ∀ events : List AliasEvent, (run perform initial events).Registered := by
  intro always
  obtain ⟨found, isFound, -, bears⟩ := always [.create 1 none none, .setAttr 1 (.string "smithy"),
    .setAttr 1 (.string "forge")] "smithy" 1 rfl
  cases isFound
  revert bears
  decide

end AliasWorld

end Cyphesis.Simulation
