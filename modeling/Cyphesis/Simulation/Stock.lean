import Cyphesis.Simulation.Destruction
import Mathlib.Algebra.Order.BigOperators.Group.Finset
import Mathlib.Tactic.Ring
import Mathlib.Tactic.Linarith

/-!
# The stock of a type

The amounts of the stacks of a type, weighed by where they are, sum up to the stock of the type.
-/

namespace Cyphesis.Simulation

open Cyphesis.Foundation Finset

/-- The largest amount. -/
def maxAmount : Int := 2 ^ 31 - 1

theorem toInt32_of_bounds {value : Int} (lower : -2 ^ 31 ≤ value) (upper : value ≤ maxAmount) :
    toInt32 value = value := by
  rw [maxAmount] at upper
  exact Int.bmod_eq_of_le (by omega) (by omega)

namespace Entity

variable {rules : Ruleset} {type : String} {before between after : Entity}

/-- How many things of a type an entity is. -/
def count (rules : Ruleset) (type : String) (entity : Entity) : Int :=
  if entity.stackable = true ∧ entity.type = type then entity.amountOf rules else 0

/-- What an entity adds to the stock of a type. -/
def worth (rules : Ruleset) (type : String) (weight : Option Nat → Int) (entity : Entity) : Int :=
  entity.count rules type * weight entity.parent

/-- A stack whose amount every operation keeps or accounts for. -/
structure Sound (rules : Ruleset) (entity : Entity) : Prop where
  byType : rules.typeDomain entity.type = some .stackable
  ownDomain : entity.domainProperty = none ∨ entity.domainProperty = some .stackable
  ownAmount : entity.amount = none → rules.typeAmount entity.type = none
  positive : 0 < entity.requireAmount

section

variable {entity : Entity} (sound : Sound rules entity)

include sound

theorem Sound.amountOf_eq : entity.amountOf rules = entity.requireAmount := by
  unfold amountOf requireAmount
  cases amount : entity.amount with
  | none => simp [sound.ownAmount amount]
  | some value => rfl

theorem Sound.count_eq (stackable : entity.stackable = true) :
    entity.count rules entity.type = entity.requireAmount := by
  rw [count, if_pos ⟨stackable, rfl⟩, sound.amountOf_eq]

theorem Sound.worth_eq (stackable : entity.stackable = true) (type : String)
    (weight : Option Nat → Int) :
    entity.worth rules type weight =
      (if type = entity.type then entity.requireAmount else 0) * weight entity.parent := by
  rw [worth, count, sound.amountOf_eq]
  simp only [stackable, true_and, eq_comm]

end

/-- The same, but its amount may be its own now. -/
structure Alike (before after : Entity) : Prop where
  type : after.type = before.type
  domainProperty : after.domainProperty = before.domainProperty
  domain : after.domain = before.domain
  stackable : after.stackable = before.stackable
  amount : after.amount = before.amount ∨ after.amount = some before.requireAmount

theorem Alike.refl (entity : Entity) : Alike entity entity :=
  ⟨rfl, rfl, rfl, rfl, .inl rfl⟩

theorem Alike.requireAmount (alike : Alike before after) :
    after.requireAmount = before.requireAmount := by
  rcases alike.amount with same | own
  · rw [Entity.requireAmount, same]
    rfl
  · rw [Entity.requireAmount, own]
    rfl

theorem Alike.trans (first : Alike before between) (second : Alike between after) :
    Alike before after := by
  refine ⟨second.type.trans first.type, second.domainProperty.trans first.domainProperty,
    second.domain.trans first.domain, second.stackable.trans first.stackable, ?_⟩
  rcases second.amount with same | own
  · rw [same]
    exact first.amount
  · rw [own, first.requireAmount]
    exact .inr rfl

theorem Alike.sound (alike : Alike before after) (sound : Sound rules before) :
    Sound rules after where
  byType := alike.type ▸ sound.byType
  ownDomain := alike.domainProperty ▸ sound.ownDomain
  ownAmount := by
    intro isNone
    rw [alike.type]
    rcases alike.amount with same | own
    · exact sound.ownAmount (same.symm.trans isNone)
    · rw [own] at isNone
      contradiction
  positive := alike.requireAmount ▸ sound.positive

theorem Alike.count_eq (alike : Alike before after)
    (sound : before.stackable = true → Sound rules before) :
    after.count rules type = before.count rules type := by
  unfold count
  rw [alike.stackable, alike.type]
  split
  · next counted =>
      have soundBefore := sound counted.1
      rw [(alike.sound soundBefore).amountOf_eq, soundBefore.amountOf_eq, alike.requireAmount]
  · rfl

end Entity

section

variable {before after : Entity} (same : World.SameStack before after)

include same

theorem World.SameStack.alike : Entity.Alike before after :=
  ⟨same.type, same.domainProperty, same.domain, same.stackable, .inl same.amount⟩

theorem World.SameStack.count_eq
    (rules : Ruleset) (type : String) : after.count rules type = before.count rules type := by
  simp only [Entity.count, Entity.amountOf, same.stackable, same.type, same.amount]

end

namespace World

variable {rules : Ruleset} {delEntity : World → Nat → World} {world changed : World}
  {id stack loc : Nat} {type : String} {weight : Option Nat → Int}

/-- Stock of a type, weighed by parents. -/
def stock (rules : Ruleset) (type : String) (weight : Option Nat → Int) (world : World) : Int :=
  ∑ id ∈ world.eobjects, (world.entity id).worth rules type weight

/-- Amount of a type in the world. -/
def total (rules : Ruleset) (type : String) (world : World) : Int :=
  stock rules type (fun _ => 1) world

theorem stock_congr (sameObjects : changed.eobjects = world.eobjects)
    (same : ∀ id ∈ world.eobjects,
      (changed.entity id).worth rules type weight = (world.entity id).worth rules type weight) :
    stock rules type weight changed = stock rules type weight world := by
  rw [stock, sameObjects]
  exact sum_congr rfl same

theorem stock_of_erase (erased : changed.eobjects = world.eobjects.erase id)
    (registered : id ∈ world.eobjects)
    (same : ∀ other ∈ world.eobjects, other ≠ id →
      (changed.entity other).worth rules type weight =
        (world.entity other).worth rules type weight) :
    stock rules type weight changed =
      stock rules type weight world - (world.entity id).worth rules type weight := by
  rw [stock, stock, erased, ← add_sum_erase world.eobjects _ registered, add_sub_cancel_left]
  refine sum_congr rfl ?_
  intro other member
  rw [mem_erase] at member
  exact same other member.2 member.1

theorem stock_of_update (sameObjects : changed.eobjects = world.eobjects)
    (registered : id ∈ world.eobjects)
    (same : ∀ other ∈ world.eobjects, other ≠ id →
      (changed.entity other).worth rules type weight =
        (world.entity other).worth rules type weight) :
    stock rules type weight changed =
      stock rules type weight world +
        ((changed.entity id).worth rules type weight -
          (world.entity id).worth rules type weight) := by
  rw [stock, stock, sameObjects, ← add_sum_erase world.eobjects _ registered,
    ← add_sum_erase world.eobjects (fun id => (world.entity id).worth rules type weight) registered]
  have others : ∑ other ∈ world.eobjects.erase id, (changed.entity other).worth rules type weight =
      ∑ other ∈ world.eobjects.erase id, (world.entity other).worth rules type weight := by
    refine sum_congr rfl ?_
    intro other member
    rw [mem_erase] at member
    exact same other member.2 member.1
  rw [others]
  ring

theorem stock_of_insert (inserted : changed.eobjects = insert id world.eobjects)
    (unregistered : id ∉ world.eobjects)
    (same : ∀ other ∈ world.eobjects,
      (changed.entity other).worth rules type weight =
        (world.entity other).worth rules type weight) :
    stock rules type weight changed =
      stock rules type weight world + (changed.entity id).worth rules type weight := by
  rw [stock, stock, inserted, sum_insert unregistered, add_comm]
  congr 1
  exact sum_congr rfl same

theorem Keeps.worth_eq (keeps : Keeps world changed id) (rules : Ruleset) (type : String)
    (weight : Option Nat → Int) :
    (changed.entity id).worth rules type weight = (world.entity id).worth rules type weight := by
  have sameParent : (changed.entity id).parent = (world.entity id).parent := keeps.parent
  rw [Entity.worth, Entity.worth, keeps.stack.count_eq, sameParent]

theorem stock_setAmount (type : String) (weight : Option Nat → Int)
    (sound : (world.entity id).Sound rules) (registered : id ∈ world.eobjects)
    (stackable : (world.entity id).stackable = true) (amount : Int) :
    stock rules type weight (world.setAmount id amount) = stock rules type weight world +
      (if type = (world.entity id).type then amount - (world.entity id).requireAmount else 0) *
        weight (world.parentOf id) := by
  have keeps : ∀ other, other ≠ id → Keeps world (world.setAmount id amount) other :=
    fun other different => Keeps.modify world id _ different
  have after : ((world.setAmount id amount).entity id).worth rules type weight =
      (if type = (world.entity id).type then amount else 0) * weight (world.parentOf id) := by
    rw [setAmount_entity, if_pos rfl]
    simp only [Entity.worth, Entity.count, stackable, true_and, eq_comm]
    rfl
  have updated := stock_of_update (setAmount_sameShape world id amount).eobjects registered
    (fun other _ different => (keeps other different).worth_eq rules type weight)
  rw [updated, after, sound.worth_eq stackable, parentOf]
  split <;> ring

/-- Registered parents, sound stacks and sums. -/
structure Stocked (rules : Ruleset) (world : World) : Prop where
  forest : Forest world
  registered : ∀ id parent, world.parentOf id = some parent → id ∈ world.eobjects
  sound : ∀ id ∈ world.eobjects, (world.entity id).stackable = true → (world.entity id).Sound rules
  bounded : ∀ type, total rules type world ≤ maxAmount
  baseDomain : (world.entity baseId).domain ≠ some .inventory ∧
    (world.entity baseId).domain ≠ some .container

namespace Stocked

section

variable (stocked : Stocked rules world)

include stocked

theorem count_nonneg (registered : id ∈ world.eobjects) :
    0 ≤ (world.entity id).count rules type := by
  unfold Entity.count
  split
  · next counted =>
      have sound := stocked.sound id registered counted.1
      rw [sound.amountOf_eq]
      exact sound.positive.le
  · rfl

theorem add_le_maxAmount (type : String)
    (registered : id ∈ world.eobjects) (stackRegistered : stack ∈ world.eobjects)
    (different : stack ≠ id) :
    (world.entity stack).count rules type + (world.entity id).count rules type ≤ maxAmount := by
  refine le_trans ?_ (stocked.bounded type)
  have pair : ∑ other ∈ ({stack, id} : Finset Nat), (world.entity other).count rules type =
      (world.entity stack).count rules type + (world.entity id).count rules type :=
    sum_pair different
  have whole : total rules type world =
      ∑ other ∈ world.eobjects, (world.entity other).count rules type := by
    simp only [total, stock, Entity.worth, mul_one]
  rw [← pair, whole]
  refine sum_le_sum_of_subset_of_nonneg ?_ ?_
  · intro other member
    rcases Finset.mem_insert.mp member with rfl | isId
    · exact stackRegistered
    · exact Finset.mem_singleton.mp isId ▸ registered
  · intro other member _
    exact stocked.count_nonneg member

theorem requireAmount_le_maxAmount
    (registered : id ∈ world.eobjects) (stackable : (world.entity id).stackable = true) :
    (world.entity id).requireAmount ≤ maxAmount := by
  have sound := stocked.sound id registered stackable
  refine le_trans ?_ (stocked.bounded (world.entity id).type)
  have whole : total rules (world.entity id).type world =
      ∑ other ∈ world.eobjects, (world.entity other).count rules (world.entity id).type := by
    simp only [total, stock, Entity.worth, mul_one]
  rw [← sound.count_eq stackable, whole]
  exact single_le_sum (f := fun other => (world.entity other).count rules
    (world.entity id).type) (fun other member => stocked.count_nonneg member) registered

end

end Stocked

/-- Amounts only go from place to place. -/
structure Transfer (rules : Ruleset) (world changed : World) (counts : String → Int)
    (source dest : Option Nat) : Prop where
  stocked : Stocked rules changed
  stock : ∀ type weight, stock rules type weight changed =
    stock rules type weight world + counts type * (weight dest - weight source)

namespace Transfer

variable {counts : String → Int} {source between dest : Option Nat} {last : World}

theorem trans (first : Transfer rules world changed counts source between)
    (second : Transfer rules changed last counts between dest) :
    Transfer rules world last counts source dest := by
  refine ⟨second.stocked, ?_⟩
  intro type weight
  rw [second.stock, first.stock]
  ring

section

variable (transfer : Transfer rules world changed counts source dest)

include transfer

theorem total_eq (type : String) : total rules type changed = total rules type world := by
  unfold total
  rw [transfer.stock]
  ring

theorem congr {other : String → Int}
    (same : counts = other) : Transfer rules world changed other source dest :=
  same ▸ transfer

end

end Transfer

section

variable (stocked : Stocked rules world)

include stocked

theorem Stocked.of_alike (shape : SameShape world changed)
    (alike : ∀ id, (world.entity id).Alike (changed.entity id)) (counts : String → Int)
    (place : Option Nat) : Transfer rules world changed counts place place := by
  have sameStock : ∀ type weight,
      World.stock rules type weight changed = World.stock rules type weight world := by
    intro type weight
    refine stock_congr shape.eobjects ?_
    intro id registered
    have sameParent : (changed.entity id).parent = (world.entity id).parent :=
      congrFun shape.parent id
    rw [Entity.worth, Entity.worth, (alike id).count_eq (stocked.sound id registered), sameParent]
  refine ⟨⟨stocked.forest.of_sameShape shape, ?_, ?_, ?_, ?_⟩, ?_⟩
  · rw [shape.parent, shape.eobjects]
    exact stocked.registered
  · intro id registered stackable
    rw [shape.eobjects] at registered
    rw [(alike id).stackable] at stackable
    exact (alike id).sound (stocked.sound id registered stackable)
  · intro type
    rw [total, sameStock]
    exact stocked.bounded type
  · rw [(alike baseId).domain]
    exact stocked.baseDomain
  · intro type weight
    rw [sameStock]
    ring

theorem Stocked.relocate (registered : id ∈ world.eobjects)
    (relocated : Forest (relocate rules world id loc)) :
    Transfer rules world (World.relocate rules world id loc)
      (fun type => (world.entity id).count rules type) (world.parentOf id) (some loc) := by
  have sameObjects := relocate_eobjects rules world id loc
  have stack := relocate_sameStack rules world id loc
  have moves : ∀ type weight, World.stock rules type weight (World.relocate rules world id loc) =
      World.stock rules type weight world +
        (world.entity id).count rules type * (weight (some loc) - weight (world.parentOf id)) := by
    intro type weight
    have newParent : ((World.relocate rules world id loc).entity id).parent = some loc :=
      relocate_parentOf_self rules world id loc
    rw [stock_of_update sameObjects registered
      (fun other _ different => (Keeps.relocate rules world different).worth_eq rules type weight),
      Entity.worth, Entity.worth, (stack id).count_eq, newParent, parentOf]
    ring
  refine ⟨⟨relocated, ?_, ?_, ?_, ?_⟩, moves⟩
  · intro other parent isParent
    rw [sameObjects]
    by_cases isId : other = id
    · exact isId ▸ registered
    · rw [relocate_parentOf, Function.update_of_ne isId] at isParent
      exact stocked.registered other parent isParent
  · intro other isRegistered stackable
    rw [sameObjects] at isRegistered
    rw [(stack other).stackable] at stackable
    exact (stack other).alike.sound (stocked.sound other isRegistered stackable)
  · intro type
    rw [total, moves, sub_self, mul_zero, add_zero]
    exact stocked.bounded type
  · rw [(stack baseId).domain]
    exact stocked.baseDomain

theorem Stocked.receive (kind : DomainKind) (id : Nat)
    (counts : String → Int) (place : Option Nat) :
    Transfer rules world (receive rules world kind id) counts place place :=
  stocked.of_alike (receive_sameShape rules world kind id)
    (fun other => (receive_sameStack rules world kind id other).alike) counts place

end

section Merge

variable (removes : RemovesLeaves rules delEntity) (stocked : Stocked rules world)
  (joinable : Joinable world id stack)

include stocked joinable

theorem Stocked.registered_of_joinable : id ∈ world.eobjects ∧ stack ∈ world.eobjects := by
  obtain ⟨parent, isParent⟩ := joinable.hasParent
  exact ⟨stocked.registered id parent isParent,
    stocked.registered stack parent (joinable.sameParent.trans isParent)⟩

theorem Stocked.mergedAmount_eq :
    world.mergedAmount stack id =
      (world.entity stack).requireAmount + (world.entity id).requireAmount := by
  obtain ⟨registered, stackRegistered⟩ := stocked.registered_of_joinable joinable
  have sound := stocked.sound id registered joinable.stackable
  have stackSound := stocked.sound stack stackRegistered joinable.stackStackable
  have fits := stocked.add_le_maxAmount (world.entity id).type registered stackRegistered
    joinable.different
  have stackCount := stackSound.count_eq joinable.stackStackable
  rw [joinable.sameType] at stackCount
  rw [stackCount, sound.count_eq joinable.stackable] at fits
  have positive := sound.positive
  have stackPositive := stackSound.positive
  exact toInt32_of_bounds (by omega) fits

include removes

theorem Stocked.merge_eq :
    World.merge delEntity world stack id = removeLeaf rules
      ((world.setAmount stack ((world.entity stack).requireAmount +
        (world.entity id).requireAmount)).setAmount id 0) id := by
  obtain ⟨registered, stackRegistered⟩ := stocked.registered_of_joinable joinable
  have positive := (stocked.sound id registered joinable.stackable).positive
  have stackPositive := (stocked.sound stack stackRegistered joinable.stackStackable).positive
  have isSum := stocked.mergedAmount_eq joinable
  rw [merge_of_positive removes stocked.forest joinable (by omega), isSum]

/-- The stack gains what the entity had. -/
theorem Stocked.merge (counts : String → Int) (place : Option Nat) :
    Transfer rules world (World.merge delEntity world stack id) counts place place := by
  obtain ⟨registered, stackRegistered⟩ := stocked.registered_of_joinable joinable
  have sound := stocked.sound id registered joinable.stackable
  have stackSound := stocked.sound stack stackRegistered joinable.stackStackable
  have isMerged := stocked.merge_eq removes joinable
  have forest := Forest.merge removes stocked.forest joinable
  rw [isMerged] at forest ⊢
  set added := world.setAmount stack
    ((world.entity stack).requireAmount + (world.entity id).requireAmount) with isAdded
  have addedId : added.entity id = world.entity id := by
    rw [isAdded, setAmount_entity, if_neg joinable.different.symm]
  have erased : (removeLeaf rules (added.setAmount id 0) id).eobjects = world.eobjects.erase id :=
    removeLeaf_eobjects rules _ id
  have keepsAdded : ∀ other, other ≠ id →
      Keeps added (removeLeaf rules (added.setAmount id 0) id) other := by
    intro other different
    exact (Keeps.modify added id _ different).trans (Keeps.removeLeaf rules _ different)
  have keeps : ∀ other, other ≠ id → other ≠ stack →
      Keeps world (removeLeaf rules (added.setAmount id 0) id) other := by
    intro other different notStack
    exact (Keeps.modify world stack _ notStack).trans (keepsAdded other different)
  have sameStock : ∀ type weight,
      stock rules type weight (removeLeaf rules (added.setAmount id 0) id) =
        stock rules type weight world := by
    intro type weight
    have gained := stock_setAmount type weight stackSound stackRegistered joinable.stackStackable
      ((world.entity stack).requireAmount + (world.entity id).requireAmount)
    have lost : stock rules type weight (removeLeaf rules (added.setAmount id 0) id) =
        stock rules type weight added - (added.entity id).worth rules type weight :=
      stock_of_erase erased registered
        (fun other _ different => (keepsAdded other different).worth_eq rules type weight)
    have worth : (world.entity id).worth rules type weight =
        (if type = (world.entity id).type then (world.entity id).requireAmount else 0) *
          weight (world.parentOf id) := sound.worth_eq joinable.stackable type weight
    rw [lost, gained, addedId, worth, joinable.sameParent, joinable.sameType]
    split <;> ring
  refine ⟨⟨forest, ?_, ?_, ?_, ?_⟩, ?_⟩
  · intro other parent isParent
    rw [removeLeaf_parentOf, Function.update_apply] at isParent
    split at isParent
    · contradiction
    · next different =>
        rw [erased]
        refine Finset.mem_erase.mpr ⟨different, stocked.registered other parent ?_⟩
        exact (congrFun (setAmount_sameShape world stack _).parent other).symm.trans
          ((congrFun (setAmount_sameShape added id 0).parent other).symm.trans isParent)
  · intro other isRegistered stackable
    rw [erased, mem_erase] at isRegistered
    obtain ⟨different, wasRegistered⟩ := isRegistered
    by_cases isStack : other = stack
    · subst isStack
      have same := (keepsAdded other different).stack
      have addedStack : added.entity other = { world.entity other with
          amount :=
            some ((world.entity other).requireAmount + (world.entity id).requireAmount) } := by
        rw [isAdded, setAmount_entity, if_pos rfl]
      rw [addedStack] at same
      refine same.alike.sound ⟨stackSound.byType, stackSound.ownDomain, nofun, ?_⟩
      exact add_pos stackSound.positive sound.positive
    · have same := (keeps other different isStack).stack
      rw [same.stackable] at stackable
      exact same.alike.sound (stocked.sound other wasRegistered stackable)
  · intro type
    rw [total, sameStock]
    exact stocked.bounded type
  · have same := (keeps baseId (joinable.notBase stocked.forest).symm
      (joinable.stackNotBase stocked.forest).symm).stack
    rw [same.domain]
    exact stocked.baseDomain
  · intro type weight
    rw [sameStock]
    ring

end Merge

theorem Stocked.changeContainer (removes : RemovesLeaves rules delEntity)
    (stocked : Stocked rules world) (registered : id ∈ world.eobjects)
    (relocated : Forest (World.relocate rules world id loc)) :
    Transfer rules world (changeContainer delEntity rules world id loc)
      (fun type => (world.entity id).count rules type) (world.parentOf id) (some loc) := by
  have moved := stocked.relocate registered relocated
  rcases changeContainer_cases relocated delEntity with
    same | ⟨kind, received⟩ | ⟨stack, _, joinable, merged⟩
  · rw [same]
    exact moved
  · rw [received]
    exact moved.trans (moved.stocked.receive kind id _ _)
  · rw [merged]
    exact moved.trans (moved.stocked.merge removes joinable _ _)

end World

end Cyphesis.Simulation
