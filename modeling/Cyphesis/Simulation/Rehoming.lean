import Mathlib.Algebra.BigOperators.Group.Finset.Piecewise
import Cyphesis.Simulation.StackMovement
import Cyphesis.Simulation.WorldRouter

/-!
# What becomes of the children of a destroyed entity

The children of a destroyed entity take their amounts to its parent.
-/

namespace Cyphesis.Simulation

open Cyphesis.Foundation List Option
open Function

namespace World

variable {rules : Ruleset} {delEntity : World → Nat → World} {world start current changed : World}
  {id loc child other : Nat} {all rest : List Nat}

/-- An entity stays where it is, and its amount gets no smaller. -/
structure Grows (rules : Ruleset) (world changed : World) (id : Nat) : Prop where
  parent : changed.parentOf id = world.parentOf id
  registered : id ∈ world.eobjects → id ∈ changed.eobjects
  amount : (world.entity id).amountOf rules ≤ (changed.entity id).amountOf rules

theorem SameStack.amountOf_eq {before after : Entity} (same : SameStack before after)
    (rules : Ruleset) : after.amountOf rules = before.amountOf rules := by
  simp only [Entity.amountOf, same.amount, same.type]

theorem Keeps.grows (keeps : Keeps world changed id) (rules : Ruleset) :
    Grows rules world changed id :=
  ⟨keeps.parent, keeps.registered, (keeps.stack.amountOf_eq rules).ge⟩

theorem Grows.trans {last : World} (first : Grows rules world changed id)
    (second : Grows rules changed last id) : Grows rules world last id :=
  ⟨second.parent.trans first.parent,
    fun registered => second.registered (first.registered registered),
    first.amount.trans second.amount⟩

section

variable (removes : RemovesLeaves rules delEntity) (stocked : Stocked rules world)

include removes stocked

theorem Stocked.merge_grows {stack : Nat} (joinable : Joinable world id stack)
    (different : other ≠ id) : Grows rules world (World.merge delEntity world stack id) other := by
  by_cases isStack : other = stack
  · subst isStack
    obtain ⟨registered, stackRegistered⟩ := stocked.registered_of_joinable joinable
    have sound := stocked.sound id registered joinable.stackable
    have stackSound := stocked.sound other stackRegistered joinable.stackStackable
    rw [stocked.merge_eq removes joinable]
    set added := world.setAmount other
      ((world.entity other).requireAmount + (world.entity id).requireAmount) with isAdded
    have keeps : Keeps added (removeLeaf rules (added.setAmount id 0) id) other :=
      (Keeps.modify added id _ different).trans (Keeps.removeLeaf rules _ different)
    have grown : Grows rules world added other := by
      refine ⟨congrFun (setAmount_sameShape world other _).parent other, fun member => member, ?_⟩
      have positive := sound.positive
      rw [stackSound.amountOf_eq, isAdded, setAmount_entity, if_pos rfl]
      simp only [Entity.amountOf, some_or, getD_some]
      omega
    exact grown.trans (keeps.grows rules)
  · exact (Keeps.merge removes stocked.forest joinable different isStack).grows rules

theorem Stocked.changeContainer_grows (registered : id ∈ world.eobjects)
    (relocated : Forest (World.relocate rules world id loc)) (different : other ≠ id) :
    Grows rules world (World.changeContainer delEntity rules world id loc) other := by
  have moved : Keeps world (World.relocate rules world id loc) other :=
    Keeps.relocate rules world different
  rcases changeContainer_cases relocated delEntity with
    same | ⟨kind, received⟩ | ⟨stack, _, joinable, merged⟩
  · rw [same]
    exact moved.grows rules
  · rw [received]
    exact (moved.trans (Keeps.modify _ id _ different)).grows rules
  · rw [merged]
    exact (moved.grows rules).trans
      ((stocked.relocate registered relocated).stocked.merge_grows removes joinable different)

end

/-- A child arrived with its whole amount, or joined a stack and is gone. -/
inductive Settled (rules : Ruleset) (start current : World) (loc child : Nat) : Prop where
  | arrived (inside : current.parentOf child = some loc) (registered : child ∈ current.eobjects)
      (amount : (start.entity child).amountOf rules ≤ (current.entity child).amountOf rules)
  | joined (stackable : (start.entity child).stackable = true)
      (unregistered : child ∉ current.eobjects) (gone : current.parentOf child = none)

theorem Stocked.changeContainer_settled (removes : RemovesLeaves rules delEntity)
    (registered : id ∈ world.eobjects)
    (relocated : Forest (World.relocate rules world id loc)) :
    Settled rules world (World.changeContainer delEntity rules world id loc) loc id := by
  have stack := relocate_sameStack rules world id loc id
  have inside := relocate_parentOf_self rules world id loc
  have stillRegistered : id ∈ (World.relocate rules world id loc).eobjects := by
    rw [relocate_eobjects]
    exact registered
  rcases changeContainer_cases relocated delEntity with
    same | ⟨kind, received⟩ | ⟨stack', _, joinable, merged⟩
  · rw [same]
    exact .arrived inside stillRegistered (stack.amountOf_eq rules).ge
  · have shape := receive_sameShape rules (World.relocate rules world id loc) kind id
    have sameStack := receive_sameStack rules (World.relocate rules world id loc) kind id id
    rw [received]
    refine .arrived ?_ ?_ ((stack.trans sameStack).amountOf_eq rules).ge
    · rw [shape.parent]
      exact inside
    · rw [shape.eobjects]
      exact stillRegistered
  · rw [merged]
    obtain ⟨applied, isRemoved, _⟩ := merge_eq_removeLeaf_of_forest removes relocated joinable
    refine .joined (stack.stackable.symm.trans joinable.stackable) ?_
      (merge_parentOf_self removes relocated joinable)
    rw [isRemoved, removeLeaf_eobjects]
    exact Finset.notMem_erase id _

theorem Settled.of_grows (settled : Settled rules start current loc child)
    (grows : child ∈ current.eobjects → Grows rules current changed child)
    (subset : changed.eobjects ⊆ current.eobjects)
    (orphan : current.parentOf child = none → changed.parentOf child = none) :
    Settled rules start changed loc child := by
  cases settled with
  | arrived inside registered amount =>
    have grown := grows registered
    exact .arrived (grown.parent.trans inside) (grown.registered registered)
      (amount.trans grown.amount)
  | joined stackable unregistered gone =>
    exact .joined stackable (fun member => unregistered (subset member)) (orphan gone)

/-- No child of a stack could join it. -/
def Apart (world : World) (id : Nat) : Prop :=
  ∀ child ∈ world.childrenOf id, (world.entity id).stackable = true →
    (world.entity child).stackable = true → (world.entity child).type ≠ (world.entity id).type

instance (world : World) (id : Nat) : Decidable (world.Apart id) :=
  inferInstanceAs (Decidable (∀ child ∈ world.childrenOf id, (world.entity id).stackable = true →
    (world.entity child).stackable = true → (world.entity child).type ≠ (world.entity id).type))

/-- How many things of a type there are. -/
def countAll (rules : Ruleset) (world : World) (ids : List Nat) (type : String) : Int :=
  (ids.map fun id => (world.entity id).count rules type).sum

/-- The amounts when some children have been moved. -/
structure Rehoming (rules : Ruleset) (start : World) (id loc : Nat) (all rest : List Nat)
    (current : World) : Prop where
  stocked : Stocked rules current
  keeps : Keeps start current id
  apart : ∀ child ∈ rest, (start.entity id).stackable = true →
    (start.entity child).stackable = true → (start.entity child).type ≠ (start.entity id).type
  stock : ∀ type weight, stock rules type weight current +
      countAll rules start rest type * (weight (some loc) - weight (some id)) =
    stock rules type weight start +
      countAll rules start all type * (weight (some loc) - weight (some id))
  settled : ∀ child ∈ all, child ∈ rest ∨ Settled rules start current loc child

theorem prepare_alike (world : World) (id child other : Nat) :
    (world.entity other).Alike ((world.prepare id child).entity other) := by
  have attributes := setMoveAttributes_sameStack
    (if (world.entity child).stackable then
      world.setAmount child (world.entity child).requireAmount
    else world) child (rehomeArgument world id child) other
  refine Entity.Alike.trans ?_ attributes.alike
  split
  · exact setAmount_alike world child other
  · exact Entity.Alike.refl _

theorem Stocked.prepare (stocked : Stocked rules world) (id child : Nat) (counts : String → Int)
    (place : Option Nat) : Transfer rules world (world.prepare id child) counts place place :=
  stocked.of_alike (prepare_sameShape world id child) (prepare_alike world id child) counts place

theorem Stocked.prepare_amountOf (stocked : Stocked rules world)
    (registered : child ∈ world.eobjects) :
    ((world.prepare id child).entity child).amountOf rules =
    (world.entity child).amountOf rules := by
  by_cases stackable : (world.entity child).stackable = true
  · have sound := stocked.sound child registered stackable
    have alike := prepare_alike world id child child
    rw [(alike.sound sound).amountOf_eq, sound.amountOf_eq, alike.requireAmount]
  · unfold World.prepare
    rw [if_neg stackable]
    exact (setMoveAttributes_sameStack world child _ child).amountOf_eq rules

theorem Rehoming.rehome (removes : RemovesLeaves rules delEntity)
    (pending : Pending start id (child :: rest) current)
    (emptying : Emptying id loc (child :: rest) current)
    (movable : (current.entity child).Movable)
    (rehoming : Rehoming rules start id loc all (child :: rest) current) :
    Rehoming rules start id loc all rest (rehome delEntity rules id current child) := by
  obtain ⟨above, locRegistered⟩ := emptying.holder (cons_ne_nil child rest)
  have inside := pending.parentOf mem_cons_self
  have relocated : Forest (relocate rules (current.prepare id child) child loc) :=
    pending.forest.relocate_prepare inside above locRegistered
  have shape := prepare_sameShape current id child
  have registered := rehoming.stocked.registered child id inside
  have prepared := rehoming.stocked.prepare id child
    (fun type => (current.entity child).count rules type) (some id)
  have preparedRegistered : child ∈ (current.prepare id child).eobjects :=
      shape.eobjects ▸ registered
  have childStack := (pending.keeps child mem_cons_self).stack
  have idNotChild := pending.forest.parent_ne inside
  have moved := prepared.stocked.changeContainer removes preparedRegistered relocated
  rw [shape.parent, inside] at moved
  have sameCounts : (fun type => ((current.prepare id child).entity child).count rules type) =
      fun type => (current.entity child).count rules type := by
    funext type
    exact (prepare_alike current id child child).count_eq (rehoming.stocked.sound child registered)
  have transfer := prepared.trans (moved.congr sameCounts)
  have grows : ∀ other, other ≠ child → Grows rules current
      (changeContainer delEntity rules (current.prepare id child) child loc) other := by
    intro other different
    exact ((Keeps.prepare current different).grows rules).trans
      (prepared.stocked.changeContainer_grows removes preparedRegistered relocated different)
  have subset := changeContainer_eobjects_subset removes relocated
  rw [shape.eobjects] at subset
  rw [rehome_of_movable pending.forest inside above locRegistered movable]
  refine ⟨transfer.stocked, ?_, ?_, ?_, ?_⟩
  · -- The child cannot join the entity it leaves.
    have notJoinable :
        ¬ Joinable (relocate rules (current.prepare id child) child loc) child id := by
      intro joinable
      have relocatedAlike : ∀ other, (start.entity other).Alike (current.entity other) →
          (start.entity other).Alike
            ((relocate rules (current.prepare id child) child loc).entity other) := by
        intro other alike
        exact (alike.trans (prepare_alike current id child other)).trans
          (relocate_sameStack rules _ child loc other).alike
      have idAlike := relocatedAlike id rehoming.keeps.stack.alike
      have childAlike := relocatedAlike child childStack.alike
      refine rehoming.apart child mem_cons_self ?_ ?_ ?_
      · exact idAlike.stackable.symm.trans joinable.stackStackable
      · exact childAlike.stackable.symm.trans joinable.stackable
      · rw [← childAlike.type, ← idAlike.type]
        exact joinable.sameType.symm
    exact rehoming.keeps.trans ((Keeps.prepare current idNotChild).trans
      (Keeps.changeContainer_of_not_joinable removes relocated idNotChild notJoinable))
  · intro other member
    exact rehoming.apart other (mem_cons_of_mem child member)
  · intro type weight
    have before := rehoming.stock type weight
    have sameCount := childStack.count_eq rules type
    simp only [countAll, map_cons, sum_cons] at before ⊢
    rw [transfer.stock, sameCount]
    linarith
  · intro other member
    have turn : Settled rules start
        (changeContainer delEntity rules (current.prepare id child) child loc) loc child := by
      cases Stocked.changeContainer_settled removes preparedRegistered relocated with
      | arrived inside registered' amount =>
        refine .arrived inside registered' (le_trans ?_ amount)
        rw [rehoming.stocked.prepare_amountOf registered]
        exact (childStack.amountOf_eq rules).ge
      | joined stackable unregistered gone =>
        refine .joined ?_ unregistered gone
        exact childStack.stackable.symm.trans
          ((prepare_alike current id child child).stackable.symm.trans stackable)
    by_cases isChild : other = child
    · exact .inr (isChild ▸ turn)
    · rcases rehoming.settled other member with waiting | settled
      · exact .inl ((List.mem_cons.mp waiting).resolve_left isChild)
      · refine .inr (settled.of_grows (fun _ => grows other isChild) subset ?_)
        intro gone
        exact (grows other isChild).parent.trans gone

theorem markDestroyed_alike (world : World) (id other : Nat) :
    (world.entity other).Alike ((world.markDestroyed id).entity other) := by
  rw [World.markDestroyed, modify_entity]
  split
  · next same =>
      subst same
      exact ⟨rfl, rfl, rfl, rfl, .inl rfl⟩
  · exact Entity.Alike.refl _

theorem Stocked.markDestroyed (stocked : Stocked rules world) (id : Nat) (counts : String → Int)
    (place : Option Nat) : Transfer rules world (world.markDestroyed id) counts place place :=
  stocked.of_alike (markDestroyed_sameShape world id) (markDestroyed_alike world id) counts place

theorem markDestroyed_entity_of_ne (world : World) {id other : Nat} (different : other ≠ id) :
    (world.markDestroyed id).entity other = world.entity other := by
  rw [markDestroyed, modify_entity, if_neg different]

theorem Stocked.rehoming (stocked : Stocked rules world) (apart : world.Apart id) (loc : Nat) :
    Rehoming rules (world.markDestroyed id) id loc (world.childrenOf id) (world.childrenOf id)
      (world.markDestroyed id) := by
  have marked := stocked.markDestroyed id (fun _ => 0) none
  refine ⟨marked.stocked, Keeps.refl _ id, ?_, fun _ _ => rfl, fun child member => .inl member⟩
  intro child member stackable childStackable
  have different := stocked.forest.child_ne member
  rw [markDestroyed_entity_of_ne world different] at childStackable ⊢
  have sameId : ((world.markDestroyed id).entity id).type = (world.entity id).type ∧
      ((world.markDestroyed id).entity id).stackable = (world.entity id).stackable := by
    simp [World.markDestroyed]
  rw [sameId.1]
  exact apart child member (sameId.2 ▸ stackable) childStackable

theorem Stocked.destroy_of_movable (removes : RemovesLeaves rules delEntity)
    (stocked : Stocked rules world) (notBase : id ≠ baseId) (above : world.parentOf id = some loc)
    (movable : world.AllMovable id) (apart : world.Apart id) :
    ∃ emptied, destroy delEntity rules world id = locatedEntityDestroy rules emptied id ∧
      emptied.childrenOf id = [] ∧
      Rehoming rules (world.markDestroyed id) id loc (world.childrenOf id) [] emptied := by
  have registered := stocked.registered id loc above
  have locRegistered := stocked.forest.closed id registered loc above
  obtain ⟨emptied, isEmptied, _, leaf, rehoming⟩ := World.destroy_of_movable removes stocked.forest
    notBase above locRegistered movable
    (fun rest current => Rehoming rules (world.markDestroyed id) id loc (world.childrenOf id) rest
      current)
    (fun child rest current pending emptying childMovable rehoming =>
      rehoming.rehome removes pending emptying childMovable)
    (stocked.rehoming apart loc)
  exact ⟨emptied, isEmptied, leaf, rehoming⟩

theorem Stocked.countAll_markDestroyed (stocked : Stocked rules world) (id : Nat) (type : String) :
    countAll rules (world.markDestroyed id) (world.childrenOf id) type =
      countAll rules world (world.childrenOf id) type := by
  unfold countAll
  congr 1
  refine map_congr_left ?_
  intro child member
  rw [markDestroyed_entity_of_ne world (stocked.forest.child_ne member)]

theorem Stocked.stock_emptied (stocked : Stocked rules world) {emptied : World}
    (rehoming : Rehoming rules (world.markDestroyed id) id loc (world.childrenOf id) [] emptied)
    (type : String) (weight : Option Nat → Int) :
    stock rules type weight emptied = stock rules type weight world +
      countAll rules world (world.childrenOf id) type * (weight (some loc) - weight (some id)) := by
  have moved := rehoming.stock type weight
  have marked := (stocked.markDestroyed id (fun _ => 0) none).stock type weight
  have nothing : countAll rules (world.markDestroyed id) [] type = 0 := rfl
  rw [nothing, stocked.countAll_markDestroyed, marked] at moved
  linarith

/-- No child of the entity can join a stack in the place: the domain there does not look for stacks,
or there is none of the type of a child, neither there nor among the children. -/
def NoneJoins (world : World) (id loc : Nat) : Prop :=
  (world.entity loc).domain = some .inventory ∨ (world.entity loc).domain = some .container →
    ∀ child ∈ world.childrenOf id, ∀ stack ∈ world.childrenOf loc ++ world.childrenOf id,
      stack ≠ child → (world.entity child).stackable = true →
        (world.entity stack).stackable = true →
          (world.entity stack).type ≠ (world.entity child).type

instance (world : World) (id loc : Nat) : Decidable (world.NoneJoins id loc) :=
  inferInstanceAs (Decidable (_ → _))

/-- The entity and its children are registered, and stacks among these have their amounts
themselves, not by a default of their type. -/
structure OwnAmounts (rules : Ruleset) (world : World) (id : Nat) : Prop where
  registered : id ∈ world.eobjects
  children : ∀ child ∈ world.childrenOf id, child ∈ world.eobjects
  amounts : ∀ child ∈ world.childrenOf id, (world.entity child).stackable = true →
    (world.entity child).amountOf rules = (world.entity child).requireAmount

/-- Where nothing joins, children change their places one by one, and nothing else changes. -/
structure Carrying (rules : Ruleset) (world : World) (id loc : Nat) (rest : List Nat)
    (current : World) : Prop where
  eobjects : current.eobjects = world.eobjects
  alike : ∀ other, (world.entity other).Alike (current.entity other)
  amount : ∀ other, (current.entity other).amountOf rules = (world.entity other).amountOf rules
  parent : ∀ other, current.parentOf other =
    if world.parentOf other = some id ∧ other ∉ rest then some loc else world.parentOf other

theorem NoneJoins.not_joinable {moved : World} {stack : Nat} (noneJoins : world.NoneJoins id loc)
    (forest : Forest world) (inside : world.parentOf child = some id)
    (alike : ∀ other, (world.entity other).Alike (moved.entity other))
    (place : moved.parentOf child = some loc)
    (parent : moved.parentOf stack = some loc →
      world.parentOf stack = some id ∨ world.parentOf stack = some loc)
    (stacking : (moved.entity loc).domain = some .inventory ∨
      (moved.entity loc).domain = some .container) : ¬ Joinable moved child stack := by
  intro joinable
  rw [(alike loc).domain] at stacking
  have isThere : stack ∈ world.childrenOf loc ++ world.childrenOf id := by
    rw [List.mem_append, forest.memChildren, forest.memChildren]
    exact (parent (joinable.sameParent.trans place)).symm
  refine noneJoins stacking child ((forest.memChildren child id).mpr inside) stack isThere
    joinable.different ?_ ?_ ?_
  · exact (alike child).stackable.symm.trans joinable.stackable
  · exact (alike stack).stackable.symm.trans joinable.stackStackable
  · rw [← (alike stack).type, ← (alike child).type]
    exact joinable.sameType

/-- What `changeContainer` does with an entity that joins nothing. -/
structure Carried (world changed : World) (id loc : Nat) : Prop where
  eobjects : changed.eobjects = world.eobjects
  parent : changed.parentOf = update world.parentOf id (some loc)
  stack : ∀ other, SameStack (world.entity other) (changed.entity other)

theorem Carried.changeContainer (relocated : Forest (World.relocate rules world id loc))
    (alone : ∀ stack, ((World.relocate rules world id loc).entity loc).domain = some .inventory ∨
      ((World.relocate rules world id loc).entity loc).domain = some .container →
      ¬ Joinable (World.relocate rules world id loc) id stack) :
    Carried world (World.changeContainer delEntity rules world id loc) id loc := by
  have moved : World.changeContainer delEntity rules world id loc =
        World.relocate rules world id loc ∨
      ∃ kind, World.changeContainer delEntity rules world id loc =
        receive rules (World.relocate rules world id loc) kind id := by
    by_cases stacking : ((World.relocate rules world id loc).entity loc).domain = some .inventory ∨
        ((World.relocate rules world id loc).entity loc).domain = some .container
    · rcases changeContainer_cases relocated delEntity with
        same | received | ⟨stack, _, joinable, _⟩
      · exact .inl same
      · exact .inr received
      · exact absurd joinable (alone stack stacking)
    · rw [not_or] at stacking
      exact domainAddEntity_of_not_stacking delEntity relocated
        (relocate_parentOf_self rules world id loc) stacking.1 stacking.2
  rcases moved with same | ⟨kind, received⟩
  · rw [same]
    exact ⟨relocate_eobjects rules world id loc, relocate_parentOf rules world id loc,
      relocate_sameStack rules world id loc⟩
  · have shape := receive_sameShape rules (World.relocate rules world id loc) kind id
    rw [received]
    refine ⟨?_, ?_, fun other => ?_⟩
    · rw [shape.eobjects, relocate_eobjects]
    · rw [shape.parent, relocate_parentOf]
    · exact (relocate_sameStack rules world id loc other).trans
        (receive_sameStack rules _ kind id other)

theorem prepare_amountOf_of_own {other : Nat}
    (own : (current.entity child).stackable = true →
      (current.entity child).amountOf rules = (current.entity child).requireAmount) :
    ((current.prepare id child).entity other).amountOf rules =
      (current.entity other).amountOf rules := by
  by_cases isChild : other = child
  · subst isChild
    unfold World.prepare
    rw [(setMoveAttributes_sameStack _ other _ other).amountOf_eq]
    split
    · next stackable =>
      rw [own stackable, setAmount_entity, if_pos rfl]
      simp only [Entity.amountOf, some_or, getD_some]
    · rfl
  · exact (Keeps.prepare current isChild).stack.amountOf_eq rules

theorem Carrying.rehome (forest : Forest world) (noneJoins : world.NoneJoins id loc)
    (own : OwnAmounts rules world id)
    (pending : Pending (world.markDestroyed id) id (child :: rest) current)
    (emptying : Emptying id loc (child :: rest) current)
    (movable : (current.entity child).Movable)
    (carrying : Carrying rules world id loc (child :: rest) current) :
    Carrying rules world id loc rest (rehome delEntity rules id current child) := by
  obtain ⟨above, locRegistered⟩ := emptying.holder (cons_ne_nil child rest)
  have inside := pending.parentOf mem_cons_self
  have wasInside : world.parentOf child = some id := by
    have marked := pending.inside child mem_cons_self
    rwa [(markDestroyed_sameShape world id).parent] at marked
  have relocated : Forest (relocate rules (current.prepare id child) child loc) :=
    pending.forest.relocate_prepare inside above locRegistered
  have shape := prepare_sameShape current id child
  have prepared : ∀ other, (world.entity other).Alike ((current.prepare id child).entity other) :=
    fun other => (carrying.alike other).trans (prepare_alike current id child other)
  have alone : ∀ stack,
      ((relocate rules (current.prepare id child) child loc).entity loc).domain =
          some .inventory ∨
        ((relocate rules (current.prepare id child) child loc).entity loc).domain =
          some .container →
      ¬ Joinable (relocate rules (current.prepare id child) child loc) child stack := by
    intro stack stacking joinable
    refine noneJoins.not_joinable forest wasInside
      (fun other => (prepared other).trans (relocate_sameStack rules _ child loc other).alike)
      (relocate_parentOf_self rules _ child loc) ?_ stacking joinable
    intro isThere
    rw [relocate_parentOf, update_of_ne joinable.different, shape.parent, carrying.parent]
      at isThere
    split at isThere
    · next moved => exact .inl moved.1
    · exact .inr isThere
  have carried : Carried (current.prepare id child)
      (changeContainer delEntity rules (current.prepare id child) child loc) child loc :=
    Carried.changeContainer relocated alone
  have sameAmount : (current.entity child).stackable = true →
      (current.entity child).amountOf rules = (current.entity child).requireAmount := by
    intro stackable
    rw [carrying.amount, (carrying.alike child).requireAmount]
    refine own.amounts child ((forest.memChildren child id).mpr wasInside) ?_
    exact (carrying.alike child).stackable.symm.trans stackable
  rw [rehome_of_movable pending.forest inside above locRegistered movable]
  constructor
  case eobjects => rw [carried.eobjects, shape.eobjects, carrying.eobjects]
  case alike => exact fun other => (prepared other).trans (carried.stack other).alike
  case amount =>
    intro other
    rw [(carried.stack other).amountOf_eq, prepare_amountOf_of_own sameAmount, carrying.amount]
  case parent =>
    intro other
    have notAgain := (List.nodup_cons.mp pending.nodup).1
    rw [carried.parent, shape.parent]
    by_cases isChild : other = child
    · subst isChild
      rw [update_self, if_pos ⟨wasInside, notAgain⟩]
    · have same : other ∉ child :: rest ↔ other ∉ rest := by simp [isChild]
      rw [update_of_ne isChild, carrying.parent]
      simp only [same]

section

variable (forest : Forest world) (above : world.parentOf id = some loc)
  (carrying : Carrying rules world id loc [] current)

include carrying

theorem Carrying.count_eq (other : Nat) (type : String) :
    (current.entity other).count rules type = (world.entity other).count rules type := by
  rw [Entity.count, Entity.count, carrying.amount, (carrying.alike other).stackable,
    (carrying.alike other).type]

include forest above

end

/-- A chest with some coins in it. -/
def chestWorld (coins : Int) : World where
  entity
    | 0 =>
      { type := "world", parent := none, contains := some [1], destroyed := false
        domainProperty := none, domain := some .void, stackable := false, amount := none
        properties := [] }
    | 1 =>
      { type := "chest", parent := some 0, contains := some [2], destroyed := false
        domainProperty := none, domain := some .container, stackable := false, amount := none
        properties := [] }
    | 2 =>
      { type := "coin", parent := some 1, contains := none, destroyed := false
        domainProperty := none, domain := some .stackable, stackable := true
        amount := some coins, properties := [] }
    | _ => newEntity chestRules (plainAttributes "world")
  eobjects := {0, 1, 2}
  nextId := 3

theorem forest_chestWorld (coins : Int) : Forest (chestWorld coins) where
  baseRegistered := by simp [chestWorld, baseId]
  baseTop := rfl
  parentRegistered := by
    intro id registered notBase
    have isOne : id = 0 ∨ id = 1 ∨ id = 2 := by simpa [chestWorld] using registered
    rcases isOne with rfl | rfl | rfl
    · exact absurd rfl notBase
    · exact ⟨0, by simp [chestWorld], rfl⟩
    · exact ⟨1, by simp [chestWorld], rfl⟩
  memChildren := by
    intro id parent
    rcases id with _ | _ | _ | m
    all_goals rcases parent with _ | _ | _ | n
    all_goals simp [chestWorld, childrenOf, parentOf, Entity.children, newEntity]
  nodup := by
    intro id
    rcases id with _ | _ | _ | n <;> simp [chestWorld, childrenOf, Entity.children, newEntity]
  grounded := by
    intro id
    rcases id with _ | _ | _ | n
    · exact ⟨0, rfl, 0, rfl⟩
    · exact ⟨0, rfl, 1, rfl⟩
    · exact ⟨0, rfl, 2, rfl⟩
    · exact ⟨n + 3, rfl, 0, rfl⟩
  fresh := by
    intro id isFresh
    obtain ⟨n, rfl⟩ : ∃ n, id = n + 3 := ⟨id - 3, by simp only [chestWorld] at isFresh; omega⟩
    refine ⟨by simp [chestWorld], rfl, ?_⟩
    intro child
    rcases child with _ | _ | _ | m <;> simp [chestWorld, parentOf, newEntity]

theorem stocked_chestWorld {coins : Int} (positive : 0 < coins) (fits : coins ≤ maxAmount) :
    Stocked chestRules (chestWorld coins) where
  forest := forest_chestWorld coins
  registered := by
    intro id parent isParent
    have bound := ((forest_chestWorld coins).lt_nextId_of_parent isParent).1
    have small : id < 3 := bound
    have isOne : id = 0 ∨ id = 1 ∨ id = 2 := by omega
    simpa [chestWorld] using isOne
  sound := by
    intro id registered stackable
    have isOne : id = 0 ∨ id = 1 ∨ id = 2 := by simpa [chestWorld] using registered
    rcases isOne with rfl | rfl | rfl
    · cases stackable
    · cases stackable
    · exact ⟨by simp [chestWorld, chestRules], .inl rfl, nofun, positive⟩
  bounded := by
    intro type
    have sum : total chestRules type (chestWorld coins) = if "coin" = type then coins else 0 := by
      simp [total, stock, chestWorld, Entity.worth, Entity.count, Entity.amountOf]
    rw [sum]
    split
    · exact fits
    · decide
  baseDomain := by
    constructor <;> simp [chestWorld, baseId]

end World

end Cyphesis.Simulation
