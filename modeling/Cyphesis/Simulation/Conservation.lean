import Cyphesis.Simulation.Rehoming

/-!
# Conservation of stacks

In a stocked world only Delete operations change the total of a type. Left out are operations that
ask for more than 32 bits, that split a stack without a location that takes the part, that destroy
an entity with a stack of more than one in it, or a stack with a stack of its own type in it.
-/

namespace Cyphesis.Simulation

open Cyphesis.Foundation

namespace World

variable {rules : Ruleset} {world : World} {id depth : Nat}

theorem Stocked.dismiss (stocked : Stocked rules world) (leaf : world.childrenOf id = [])
    (registered : id ∈ world.eobjects) (notBase : id ≠ baseId) :
    Stocked rules (dismiss rules world id) ∧
      ∀ type, total rules type (World.dismiss rules world id) =
        total rules type world - (world.entity id).count rules type := by
  have erased := dismiss_eobjects rules world id
  have keeps : ∀ other, other ≠ id → Keeps world (World.dismiss rules world id) other := by
    intro other different
    refine ⟨?_, ?_, dismiss_sameStack rules world different⟩
    · rw [dismiss_parentOf, Function.update_of_ne different]
    · rw [erased]
      exact fun member => Finset.mem_erase.mpr ⟨different, member⟩
  have less : ∀ type, total rules type (World.dismiss rules world id) =
      total rules type world - (world.entity id).count rules type := by
    intro type
    have removed : total rules type (World.dismiss rules world id) =
        total rules type world - (world.entity id).worth rules type fun _ => 1 :=
      stock_of_erase erased registered
        (fun other _ different => (keeps other different).worth_eq rules type _)
    rw [removed, Entity.worth, mul_one]
  refine ⟨⟨stocked.forest.dismiss leaf notBase, ?_, ?_, ?_, ?_⟩, less⟩
  · intro other parent isParent
    rw [dismiss_parentOf, Function.update_apply] at isParent
    split at isParent
    · contradiction
    · next different =>
        exact (keeps other different).registered (stocked.registered other parent isParent)
  · intro other isRegistered stackable
    rw [erased, Finset.mem_erase] at isRegistered
    have same := (keeps other isRegistered.1).stack
    rw [same.stackable] at stackable
    exact same.alike.sound (stocked.sound other isRegistered.2 stackable)
  · intro type
    have nonneg : 0 ≤ (world.entity id).count rules type := stocked.count_nonneg registered
    have bounded := stocked.bounded type
    rw [less]
    omega
  · rw [(keeps baseId notBase.symm).stack.domain]
    exact stocked.baseDomain

theorem Stocked.delEntity (stocked : Stocked rules world) (registered : id ∈ world.eobjects)
    (notBase : id ≠ baseId) (movable : world.AllMovable id) (apart : world.Apart id) :
    Stocked rules (delEntity rules (depth + 2) world id) ∧
      ∀ type, total rules type (World.delEntity rules (depth + 2) world id) =
        total rules type world - (world.entity id).count rules type := by
  obtain ⟨loc, _, above⟩ := stocked.forest.parentRegistered id registered notBase
  obtain ⟨emptied, isEmptied, leaf, rehoming⟩ := stocked.destroy_of_movable
    (delEntity_removesLeaves rules depth) notBase above movable apart
  have isDismissed : World.delEntity rules (depth + 2) world id =
      World.dismiss rules emptied id := by
    rw [World.delEntity, if_neg notBase, isEmptied]
    rfl
  obtain ⟨dismissed, less⟩ := rehoming.stocked.dismiss leaf
    (rehoming.keeps.registered registered) notBase
  rw [isDismissed]
  refine ⟨dismissed, fun type => ?_⟩
  have sameCount : (emptied.entity id).count rules type = (world.entity id).count rules type := by
    rw [rehoming.keeps.stack.count_eq]
    simp [Entity.count, Entity.amountOf, World.markDestroyed]
  have sameTotal : total rules type emptied = total rules type world := by
    rw [total, stocked.stock_emptied rehoming, sub_self, mul_zero, add_zero]
    rfl
  rw [less, sameCount, sameTotal]

/-- How much a Delete takes. -/
def removedAmount (entity : Entity) (asked : Option Int) : Int :=
  if 0 ≤ toInt32 (asked.getD 1) then min entity.requireAmount (toInt32 (asked.getD 1)) else 0

/-- How many things a Delete takes. -/
def removedCount (entity : Entity) (asked : Option Int) (type : String) : Int :=
  if entity.stackable = true ∧ entity.type = type then removedAmount entity asked else 0

theorem toInt32_bounds (value : Int) : -2 ^ 31 ≤ toInt32 value ∧ toInt32 value ≤ maxAmount := by
  have lower := Int.le_bmod (x := value) (m := 2 ^ 32) (by decide)
  have upper := Int.bmod_lt (x := value) (m := 2 ^ 32) (by decide)
  unfold toInt32 maxAmount
  omega

section

variable (stocked : Stocked rules world) (registered : id ∈ world.eobjects)

include stocked registered

theorem Stocked.decrease (stackable : (world.entity id).stackable = true) {rest : Int}
    (positive : 0 < rest) (less : rest ≤ (world.entity id).requireAmount) :
    Stocked rules (world.setAmount id rest) ∧
      ∀ type, total rules type (world.setAmount id rest) = total rules type world -
        if type = (world.entity id).type then (world.entity id).requireAmount - rest else 0 := by
  have sound := stocked.sound id registered stackable
  have shape := setAmount_sameShape world id rest
  have totals : ∀ type, total rules type (world.setAmount id rest) = total rules type world -
      if type = (world.entity id).type then (world.entity id).requireAmount - rest else 0 := by
    intro type
    rw [total, stock_setAmount type _ sound registered stackable, total]
    split <;> ring
  refine ⟨⟨stocked.forest.of_sameShape shape, ?_, ?_, ?_, ?_⟩, totals⟩
  · rw [shape.parent, shape.eobjects]
    exact stocked.registered
  · intro other isRegistered otherStackable
    rw [setAmount_entity] at otherStackable ⊢
    split
    · exact ⟨sound.byType, sound.ownDomain, fun absent =>
        absurd absent (Option.some_ne_none _), positive⟩
    · next different =>
        rw [if_neg different] at otherStackable
        exact stocked.sound other isRegistered otherStackable
  · intro type
    have bounded := stocked.bounded type
    rw [totals]
    split <;> omega
  · rw [setAmount_entity]
    split
    · next isBase =>
        rw [← isBase]
        exact stocked.baseDomain
    · exact stocked.baseDomain

theorem Stocked.thingDeleteOperation (notBase : id ≠ baseId) (movable : world.AllMovable id)
    (apart : world.Apart id) :
    Stocked rules (World.thingDeleteOperation (World.delEntity rules (depth + 2)) world id) ∧
      ∀ type, total rules type
          (World.thingDeleteOperation (World.delEntity rules (depth + 2)) world id) =
        total rules type world - (world.entity id).count rules type := by
  obtain ⟨loc, _, above⟩ := stocked.forest.parentRegistered id registered notBase
  unfold World.thingDeleteOperation
  rw [above]
  exact stocked.delEntity registered notBase movable apart

theorem Stocked.deleteOperation (notBase : id ≠ baseId) {asked : Option Int}
    (guarded : deletesAll (world.entity id) asked = true → world.AllMovable id ∧ world.Apart id) :
    Stocked rules (World.deleteOperation (World.delEntity rules (depth + 2)) world id asked) ∧
      ∀ type, total rules type
          (World.deleteOperation (World.delEntity rules (depth + 2)) world id asked) =
        total rules type world - removedCount (world.entity id) asked type := by
  have asked32 := toInt32_bounds (asked.getD 1)
  have difference : (world.entity id).stackable = true → 0 ≤ toInt32 (asked.getD 1) →
      toInt32 ((world.entity id).requireAmount - toInt32 (asked.getD 1)) =
        (world.entity id).requireAmount - toInt32 (asked.getD 1) := by
    intro stackable notNegative
    have positive := (stocked.sound id registered stackable).positive
    have fits := stocked.requireAmount_le_maxAmount registered stackable
    exact toInt32_of_bounds (by unfold maxAmount at asked32; omega) (by omega)
  rcases deleteOperation_cases (World.delEntity rules (depth + 2)) world id asked with
    ⟨_, ⟨negative, same⟩ | ⟨notNegative, remains, stackable, less⟩⟩ |
      ⟨all, ⟨single, isDeleted⟩ | ⟨stackable, isDeleted⟩⟩
  · rw [same]
    refine ⟨stocked, fun type => ?_⟩
    have nothing : removedAmount (world.entity id) asked = 0 := if_neg (by omega)
    simp only [removedCount, nothing, ite_self, sub_zero]
  · rw [difference stackable notNegative] at remains less
    obtain ⟨decreased, totals⟩ := stocked.decrease registered stackable remains (by omega)
    rw [less]
    refine ⟨decreased, fun type => ?_⟩
    have taken : removedAmount (world.entity id) asked = toInt32 (asked.getD 1) := by
      rw [removedAmount, if_pos notNegative]
      omega
    rw [totals, removedCount, taken]
    simp only [stackable, true_and, sub_sub_cancel, eq_comm]
  · obtain ⟨movable, apart⟩ := guarded all
    obtain ⟨deleted, totals⟩ := stocked.thingDeleteOperation registered notBase movable apart
    rw [isDeleted]
    refine ⟨deleted, fun type => ?_⟩
    rw [totals]
    simp [removedCount, Entity.count, single]
  · obtain ⟨movable, apart⟩ := guarded all
    have required := stocked.setRequiredAmount id (fun _ => 0) none
    have shape := setAmount_sameShape world id (world.entity id).requireAmount
    have alike := setAmount_alike world id
    have sound := stocked.sound id registered stackable
    have stillMovable : (world.setAmount id (world.entity id).requireAmount).AllMovable id := by
      intro child member
      rw [shape.children] at member
      rw [setAmount_entity, if_neg (stocked.forest.child_ne member)]
      exact movable child member
    have stillApart : (world.setAmount id (world.entity id).requireAmount).Apart id := by
      intro child member _ childStackable
      rw [shape.children] at member
      rw [(alike child).stackable] at childStackable
      rw [(alike child).type, (alike id).type]
      exact apart child member stackable childStackable
    obtain ⟨deleted, totals⟩ := required.stocked.thingDeleteOperation (shape.eobjects ▸ registered)
      notBase stillMovable stillApart
    rw [isDeleted]
    refine ⟨deleted, fun type => ?_⟩
    rw [totals, required.total_eq, (alike id).count_eq fun _ => sound]
    have taken : removedAmount (world.entity id) asked = (world.entity id).requireAmount := by
      simp only [deletesAll, stackable, Bool.not_true, Bool.false_or, Bool.and_eq_true,
        decide_eq_true_eq] at all
      rw [difference stackable all.1] at all
      rw [removedAmount, if_pos all.1]
      omega
    rw [removedCount, taken, Entity.count, sound.amountOf_eq]

end

variable {argument : MoveArgument}

section

variable (stocked : Stocked rules world)

include stocked

theorem Stocked.moveTarget
    (registered : argument.id ∈ world.eobjects) :
    Stocked rules (World.moveTarget rules (depth + 1) world argument) ∧
      ∀ type, total rules type (World.moveTarget rules (depth + 1) world argument) =
        total rules type world := by
  unfold World.moveTarget
  split_ifs with isBase
  · exact ⟨stocked, fun _ => rfl⟩
  · obtain ⟨_, transfer, _⟩ := stocked.moveSelf (delEntity_removesLeaves rules depth) registered
      isBase argument
    exact ⟨transfer.stocked, transfer.total_eq⟩

/-- The Move splits a stack: it asks for some of it, and not for all. -/
def Splits (world : World) (argument : MoveArgument) : Prop :=
  (world.entity argument.id).stackable = true ∧
    0 < movedAmount (world.entity argument.id).requireAmount argument.amount ∧
    movedAmount (world.entity argument.id).requireAmount argument.amount <
      (world.entity argument.id).requireAmount

/-- The Move names a location that takes the entity. -/
def Placed (world : World) (argument : MoveArgument) : Prop :=
  ∃ loc ∈ argument.loc, loc ∈ world.eobjects ∧
    meets world.parentOf world.eobjects.card loc argument.id = false

/-- Nothing is lost or created by the operation, and nothing left in another place than asked. -/
def Conserving (world : World) : Operation → Prop
  | .addNewEntity _ _ => False
  | .move _ argument =>
    toInt32 (argument.amount.getD 1) = argument.amount.getD 1 ∧
      (Splits world argument → Placed world argument)
  | .delete id amount =>
    ∀ destroyed ∈ destroys world (.delete id amount),
      world.AllMovable destroyed ∧ world.Apart destroyed
  | .forceDelete id =>
    ∀ destroyed ∈ destroys world (.forceDelete id),
      world.AllMovable destroyed ∧ world.Apart destroyed

/-- How many it removes of a type. -/
def removed (rules : Ruleset) (world : World) (type : String) : Operation → Int
  | .delete id amount =>
    if id ∈ world.eobjects ∧ (world.entity id).destroyed = false ∧ id ≠ baseId then
      removedCount (world.entity id) amount type
    else 0
  | .forceDelete id =>
    if id ∈ world.eobjects ∧ id ≠ baseId then (world.entity id).count rules type else 0
  | _ => 0

theorem Stocked.perform {operation : Operation}
    (guarded : world.Conserving operation) :
    Stocked rules (perform rules (depth + 2) world operation) ∧
      ∀ type, total rules type (World.perform rules (depth + 2) world operation) =
        total rules type world - removed rules world type operation := by
  cases operation with
  | addNewEntity tree loc => exact guarded.elim
  | move id argument =>
    simp only [World.perform, removed, sub_zero]
    rcases moveOperation_cases rules (depth + 2) world id argument with
      same | ⟨registered, moved⟩
    · rw [same]
      exact ⟨stocked, fun _ => rfl⟩
    · rw [moved]
      exact stocked.moveTarget registered
  | delete id amount =>
    simp only [World.perform, removed]
    split
    · next delivered =>
        refine stocked.deleteOperation delivered.1 delivered.2.2 ?_
        intro all
        refine guarded id ?_
        simp [destroys, delivered, all]
    · exact ⟨stocked, fun type => (sub_zero _).symm⟩
  | forceDelete id =>
    by_cases destroyed : id ∈ world.eobjects ∧ id ≠ baseId
    · have condition := guarded id (by simp [destroys, destroyed])
      simp only [World.perform, removed, if_pos destroyed, if_pos destroyed.1]
      exact stocked.delEntity destroyed.1 destroyed.2 condition.1 condition.2
    · have same : World.perform rules (depth + 2) world (.forceDelete id) = world := by
        simp only [World.perform, ite_eq_right_iff]
        intro registered
        have isBase : id = baseId := not_not.mp fun notBase => destroyed ⟨registered, notBase⟩
        rw [World.delEntity, if_pos isBase]
      rw [same]
      simp only [removed, if_neg destroyed, sub_zero]
      exact ⟨stocked, fun _ => trivial⟩

/-- How many a run removes of a type. -/
def removedInRun (rules : Ruleset) (depth : Nat) (type : String) : World → List Operation → Int
  | _, [] => 0
  | world, operation :: rest =>
    removed rules world type operation +
      removedInRun rules depth type (perform rules depth world operation) rest

theorem Stocked.run {operations : List Operation}
    (admissible : Admissible (World.perform rules (depth + 2)) Conserving world operations) :
    Stocked rules (run (World.perform rules (depth + 2)) world operations) ∧
      ∀ type, total rules type (run (World.perform rules (depth + 2)) world operations) =
        total rules type world - removedInRun rules (depth + 2) type world operations := by
  induction operations generalizing world with
  | nil => exact ⟨stocked, fun type => (sub_zero _).symm⟩
  | cons operation rest ih =>
    obtain ⟨performed, totals⟩ : Stocked rules (World.perform rules (depth + 2) world operation) ∧
        _ := stocked.perform admissible.1
    obtain ⟨final, finalTotals⟩ := ih performed admissible.2
    refine ⟨final, fun type => ?_⟩
    rw [run_cons, finalTotals, totals, removedInRun]
    ring

end

instance (world : World) (argument : MoveArgument) : Decidable (Splits world argument) :=
  inferInstanceAs (Decidable (_ ∧ _ ∧ _))

instance (world : World) (argument : MoveArgument) : Decidable (Placed world argument) :=
  inferInstanceAs (Decidable (∃ loc ∈ argument.loc, _))

instance (world : World) : (operation : Operation) → Decidable (world.Conserving operation)
  | .addNewEntity _ _ => inferInstanceAs (Decidable False)
  | .move _ argument =>
    inferInstanceAs (Decidable (_ ∧ (Splits world argument → Placed world argument)))
  | .delete id amount =>
    inferInstanceAs (Decidable (∀ destroyed ∈ destroys world (.delete id amount),
      world.AllMovable destroyed ∧ world.Apart destroyed))
  | .forceDelete id =>
    inferInstanceAs (Decidable (∀ destroyed ∈ destroys world (.forceDelete id),
      world.AllMovable destroyed ∧ world.Apart destroyed))

end World

end Cyphesis.Simulation
