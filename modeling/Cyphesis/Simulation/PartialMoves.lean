import Cyphesis.Simulation.Conservation

/-!
# Refused moves of part of a stack

A Move operation whose location does not exist or is inside the entity is answered with an error.
-/

namespace Cyphesis.Simulation

open Cyphesis.Foundation

namespace World

variable {rules : Ruleset} {world : World}

/-- The error `Thing::moveOurselves` answers with. -/
def moveError (world : World) (id : Nat) (argument : MoveArgument) : Option String :=
  match argument.loc with
  | none => none
  | some newLoc =>
    if world.parentOf id = some newLoc then none
    else if newLoc ∉ world.eobjects then some "Move op loc does not exist"
    else if meets world.parentOf world.eobjects.card newLoc id then
      some "Attempt to move into itself"
    else none

section Errors

variable (delEntity : World → Nat → World) (rules : Ruleset)

/-- Error of a Move, `errorNew` for a split. -/
def moveErrorWith (errorNew : World → Nat → MoveArgument → Option String) (world : World)
    (id : Nat) (argument : MoveArgument) : Option String :=
  if (world.entity id).stackable then
    let data := (world.entity id).requireAmount
    let required := world.setAmount id data
    let amount := movedAmount data argument.amount
    if amount = 0 then none
    else if amount = data then moveError required id argument
    else
      errorNew (split delEntity rules required id amount) required.nextId
        { argument with id := required.nextId, amount := some amount }
  else moveError world id argument

/-- Error of a Move, from either entity. -/
def moveSelfError (world : World) (id : Nat) (argument : MoveArgument) : Option String :=
  moveErrorWith delEntity rules (moveErrorWith delEntity rules fun _ _ _ => none) world id argument

end Errors

/-- As much of the entity, nothing new, and an error. -/
structure LeavesWhole (rules : Ruleset) (depth : Nat) (world : World) (argument : MoveArgument) :
    Prop where
  amount : ((moveTarget rules depth world argument).entity argument.id).requireAmount =
    (world.entity argument.id).requireAmount
  eobjects : (moveTarget rules depth world argument).eobjects = world.eobjects
  error : (moveSelfError (delEntity rules depth) rules world argument.id argument).isSome = true

variable {argument : MoveArgument}

theorem parentOf_ne_of_moveError {id newLoc : Nat}
    (refused : (moveError world id argument).isSome = true) (isLoc : argument.loc = some newLoc) :
    world.parentOf id ≠ some newLoc := by
  rintro inLoc
  simp [moveError, isLoc, inLoc] at refused

theorem movedAmount_self {amount : Int} (positive : 0 < amount) (fits : amount ≤ maxAmount) :
    movedAmount amount (some amount) = amount := by
  have asked : toInt32 amount = amount := toInt32_of_bounds (by omega) fits
  rw [movedAmount, Option.getD_some, asked]
  omega

section

variable {delEntity : World → Nat → World} (removes : RemovesLeaves rules delEntity)
  (stocked : Stocked rules world) {id : Nat} (registered : id ∈ world.eobjects)
  (stackable : (world.entity id).stackable = true)

include removes stocked registered stackable

theorem Keeps.movePart {amount : Int} (positive : 0 < amount)
    (part : amount < (world.entity id).requireAmount)
    (notInLoc : ∀ newLoc, argument.loc = some newLoc → world.parentOf id ≠ some newLoc)
    (moveNew : World → Nat → MoveArgument → World) :
    Keeps (split delEntity rules world id amount)
      (moveOperationWith delEntity rules moveNew (split delEntity rules world id amount)
        world.nextId { argument with id := world.nextId, amount := some amount }) id := by
  have fits := stocked.requireAmount_le_maxAmount registered stackable
  have splitOff := stocked.split removes registered stackable positive part
  set changed := split delEntity rules world id amount
  have isFresh := stocked.forest.fresh world.nextId le_rfl
  have different : id ≠ world.nextId := by
    rintro rfl
    exact isFresh.1 registered
  have notBase : world.nextId ≠ baseId :=
    Nat.ne_of_gt (stocked.forest.lt_nextId_of_registered stocked.forest.baseRegistered)
  have newRegistered : world.nextId ∈ changed.eobjects := by
    rw [splitOff.eobjects]
    exact Finset.mem_insert_self ..
  have all : movedAmount amount (some amount) = amount := movedAmount_self positive (by omega)
  have shape := setAmount_sameShape changed world.nextId (changed.entity world.nextId).requireAmount
  have required : Keeps changed (changed.setAmount world.nextId
      (changed.entity world.nextId).requireAmount) id := Keeps.modify _ _ _ different
  rw [moveOperationWith_of_all splitOff.stackable]
  · refine required.trans (Keeps.moveOurselves removes
      (splitOff.transfer.stocked.forest.of_sameShape shape) notBase ?_ different ?_)
    · rw [shape.nextId]
      exact splitOff.transfer.stocked.forest.lt_nextId_of_registered newRegistered
    · intro newLoc isLoc
      rw [shape.parent, splitOff.parents, Function.update_of_ne different]
      exact notInLoc newLoc isLoc
  · rw [splitOff.requireAmount, all]
    exact positive.ne'
  · rw [splitOff.requireAmount, all]

theorem requireAmount_moveSelf_of_refused
    (positive : 0 < movedAmount (world.entity id).requireAmount argument.amount)
    (part : movedAmount (world.entity id).requireAmount argument.amount <
      (world.entity id).requireAmount) (refused : (moveError world id argument).isSome = true) :
    ((moveSelf delEntity rules world id argument).entity id).requireAmount =
      (world.entity id).requireAmount -
        movedAmount (world.entity id).requireAmount argument.amount := by
  have shape := setAmount_sameShape world id (world.entity id).requireAmount
  have required := (stocked.setRequiredAmount id (fun _ => 0) none).stocked
  have sameAmount : ((world.setAmount id (world.entity id).requireAmount).entity id).requireAmount =
      (world.entity id).requireAmount := by
    rw [setAmount_entity, if_pos rfl]
    rfl
  have stillStackable :
      ((world.setAmount id (world.entity id).requireAmount).entity id).stackable = true := by
    rw [setAmount_entity, if_pos rfl]
    exact stackable
  have kept := Keeps.movePart removes required (shape.eobjects ▸ registered) stillStackable positive
    (by rw [sameAmount]; exact part)
    (fun newLoc isLoc => shape.parent ▸ parentOf_ne_of_moveError refused isLoc)
    fun unsplit _ _ => unsplit
  rw [moveSelf, moveOperationWith_of_part stackable positive.ne' part.ne]
  rw [shape.nextId] at kept
  rw [Entity.requireAmount, kept.stack.amount, split, setAmount_entity, if_pos rfl, sameAmount]
  rfl

end

/-- A Move of a part that is refused has split the stack all the same. -/
theorem not_leavesWhole (rules : Ruleset) (depth : Nat) {world : World}
    (stocked : Stocked rules world) {argument : MoveArgument}
    (registered : argument.id ∈ world.eobjects) (notBase : argument.id ≠ baseId)
    (stackable : (world.entity argument.id).stackable = true)
    (positive : 0 < movedAmount (world.entity argument.id).requireAmount argument.amount)
    (part : movedAmount (world.entity argument.id).requireAmount argument.amount <
      (world.entity argument.id).requireAmount)
    (refused : (moveError world argument.id argument).isSome = true) :
    ¬ LeavesWhole rules (depth + 1) world argument := by
  intro whole
  have amount := whole.amount
  rw [moveTarget, if_neg notBase, requireAmount_moveSelf_of_refused
    (delEntity_removesLeaves rules depth) stocked registered stackable positive part refused]
    at amount
  omega

/-- Two of five coins, into the stack itself. -/
def moveIntoItself : MoveArgument :=
  { id := 2, loc := some 2, amount := some 2, attributes := [] }

theorem moveIntoItself_not_leavesWhole :
    (moveError (chestWorld 5) 2 moveIntoItself).isSome = true ∧
      ¬ LeavesWhole chestRules 2 (chestWorld 5) moveIntoItself :=
  ⟨by decide +kernel, not_leavesWhole chestRules 1 (stocked_chestWorld (by decide) (by decide))
    (by decide +kernel) (by decide) rfl (by decide +kernel) (by decide +kernel)
    (by decide +kernel)⟩

/-- Two of five coins, to where nothing is. -/
def moveNowhere : MoveArgument :=
  { id := 2, loc := some 9, amount := some 2, attributes := [] }

/-- Three are left, and a new entity. -/
theorem moveNowhere_splits :
    Stocked chestRules (chestWorld 5) ∧
      moveError (chestWorld 5) 2 moveNowhere = some "Move op loc does not exist" ∧
      (moveTarget chestRules 2 (chestWorld 5) moveNowhere).eobjects = {0, 1, 2, 3} ∧
      ¬ LeavesWhole chestRules 2 (chestWorld 5) moveNowhere := by
  refine ⟨stocked_chestWorld (by decide) (by decide), by decide +kernel, by decide +kernel, ?_⟩
  intro whole
  exact absurd whole.amount (by decide +kernel)

end World

end Cyphesis.Simulation
