import Cyphesis.Foundation.Run
import Cyphesis.Simulation.World

/-!
# Moves by several minds

The constraints of a move are checked at once, and the operation waits in the queue, where others
can be run before it. The checks are parameters that see the whole world. The history is the
operations that were run, and for those that wait whether their entity was taken away meanwhile.
-/

namespace Cyphesis.Simulation

open Cyphesis.Foundation List

/-- Constraints and reach, of all involved. -/
structure MoveChecks where
  moverConstraint : World → Nat → Nat → Bool
  moveConstraint : World → Nat → Nat → Bool
  containConstraint : World → Nat → Nat → Nat → Bool
  destinationConstraint : World → Nat → Nat → Nat → Bool
  canReach : World → Nat → Nat → Bool
  canReachTarget : World → Nat → Nat → MoveArgument → Bool

/-- A Move in the queue: who asked for it, and the entity it is routed to, which contained the one
to be moved when the constraints were checked. -/
structure QueuedMove where
  mover : Nat
  target : Nat
  argument : MoveArgument
  /-- History: an operation that was run since took the entity out of the one it is routed to. -/
  taken : Bool

namespace MoveChecks

variable (checks : MoveChecks)

/-- The entity the moved one is to be in. -/
def targetLoc (world : World) (argument : MoveArgument) : Option Nat :=
  match argument.loc with
  | none => world.parentOf argument.id
  | some loc => if loc ∈ world.eobjects then some loc else none

/-- What may be set with a move. -/
def sanitized (argument : MoveArgument) : MoveArgument :=
  { argument with
    attributes := argument.attributes.filter fun attr =>
      attr.1 = "pos" ∨ attr.1 = "orientation" }

/-- `MindsProperty::moveOtherEntity`: the Move that is queued, if all checks pass. -/
def moveOtherEntity (world : World) (mover : Nat) (argument : MoveArgument) : Option QueuedMove :=
  if argument.id = mover then none
  else if argument.id ∉ world.eobjects then none
  else if checks.moverConstraint world mover argument.id = false then none
  else if checks.moveConstraint world mover argument.id = false then none
  else if (world.parentOf argument.id).any
      (fun above => !checks.containConstraint world mover argument.id above) then none
  else if checks.canReach world mover argument.id = false then none
  else
    match targetLoc world argument with
    | none => none
    | some loc =>
      if checks.destinationConstraint world mover argument.id loc = false then none
      else if checks.canReachTarget world mover loc argument = false then none
      else
        (world.parentOf argument.id).map fun above =>
          ⟨mover, above, sanitized argument, argument.id ∉ world.childrenOf above⟩

end MoveChecks

/-- The world, the Moves that wait, and as history those that were run, and where. -/
structure MoveQueue where
  world : World
  queue : List QueuedMove
  executed : List (World × QueuedMove)

/-- What minds and the queue of operations do, in any order. -/
inductive MoveEvent where
  /-- A mind asks for an entity to be moved. -/
  | think (mover : Nat) (argument : MoveArgument)
  /-- An operation of the queue is run. -/
  | dispatch (index : Nat)
  /-- Another operation is run. -/
  | other (operation : World.Operation)

/-- Note what the step from one world to another took away. -/
def QueuedMove.after (before after : World) (move : QueuedMove) : QueuedMove :=
  { move with
    taken := move.taken || decide (move.argument.id ∈ before.childrenOf move.target) &&
      decide (move.argument.id ∉ after.childrenOf move.target) }

namespace MoveQueue

variable (checks : MoveChecks) (rules : Ruleset) (depth : Nat)

def step (state : MoveQueue) : MoveEvent → MoveQueue
  | .think mover argument =>
    { state with
      queue := state.queue ++ (checks.moveOtherEntity state.world mover argument).toList }
  | .dispatch index =>
    match state.queue[index]? with
    | none => state
    | some move =>
      let moved := World.moveOperation rules depth state.world move.target move.argument
      { world := moved
        queue := (state.queue.eraseIdx index).map (QueuedMove.after state.world moved)
        executed := state.executed ++ [(state.world, move)] }
  | .other operation =>
    let performed := state.world.perform rules depth operation
    { state with
      world := performed
      queue := state.queue.map (QueuedMove.after state.world performed) }

variable (world : World) (move : QueuedMove)

/-- The mover passes the checks in a world. -/
def Entitled : Prop :=
  (checks.moveOtherEntity world move.mover move.argument).isSome

/-- If the operation takes effect, the entity is where the checks assumed it, or is moved into the
entity by a mover who passes the checks now. -/
def Rightful : Prop :=
  World.moveOperation rules depth world move.target move.argument ≠ world →
    move.argument.id ∈ world.childrenOf move.target ∨
      move.argument.loc = some move.target ∧ Entitled checks world move

/-- The entity was taken away while the Move waited, and the entity that gets it takes it back: the
Move names that one as the new location, or the moved one is its own parent. -/
def Stale : Prop :=
  move.taken = true ∧
    (move.argument.loc = some move.target ∨ move.target = move.argument.id)

/-- No stale Move is run. -/
def Timely (state : MoveQueue) : MoveEvent → Prop
  | .dispatch index => ∀ move ∈ state.queue[index]?, ¬Stale move
  | _ => True

instance (world : World) (move : QueuedMove) : Decidable (Entitled checks world move) :=
  inferInstanceAs
    (Decidable ((checks.moveOtherEntity world move.mover move.argument).isSome = true))

instance (move : QueuedMove) : Decidable (Stale move) :=
  inferInstanceAs (Decidable (_ ∧ (_ ∨ _)))

instance (state : MoveQueue) : ∀ event, Decidable (Timely state event)
  | .think _ _ => inferInstanceAs (Decidable True)
  | .dispatch index =>
    inferInstanceAs (Decidable (∀ move ∈ state.queue[index]?, ¬Stale move))
  | .other _ => inferInstanceAs (Decidable True)

variable {checks rules depth}

/-- Sent to the wrong entity, it does nothing. -/
theorem moveOperation_eq_self {world : World} {target : Nat} {argument : MoveArgument}
    (absent : argument.id ∉ world.childrenOf target) (elsewhere : argument.loc ≠ some target)
    (different : target ≠ argument.id) :
    World.moveOperation rules depth world target argument = world := by
  unfold World.moveOperation
  split
  · unfold World.moveOtherEntity
    split
    · cases loc : argument.loc with
      | none => rfl
      | some newLoc =>
        have notHere : newLoc ≠ target := by
          intro same
          rw [loc, same] at elsewhere
          exact elsewhere rfl
        simp only [notHere, absent, false_and, if_false]
    · rfl
  · rfl

/-- Waiting Moves whose entity was not taken away find it in place. -/
def InPlace (world : World) (queue : List QueuedMove) : Prop :=
  ∀ move ∈ queue, move.taken = false → move.argument.id ∈ world.childrenOf move.target

theorem InPlace.after {before : World} {queue : List QueuedMove} (inPlace : InPlace before queue)
    (after : World) : InPlace after (queue.map (QueuedMove.after before after)) := by
  intro move isMove kept
  obtain ⟨earlier, isEarlier, rfl⟩ := mem_map.mp isMove
  rw [QueuedMove.after, Bool.or_eq_false_iff, Bool.and_eq_false_iff] at kept
  have wasIn := inPlace earlier isEarlier kept.1
  simpa [QueuedMove.after, wasIn] using kept.2

theorem moveOtherEntity_inPlace {world : World} {mover : Nat} {argument : MoveArgument} :
    InPlace world (checks.moveOtherEntity world mover argument).toList := by
  intro move isMove kept
  rw [Option.mem_toList] at isMove
  unfold MoveChecks.moveOtherEntity at isMove
  repeat' split at isMove
  all_goals first | cases isMove | skip
  obtain ⟨above, -, rfl⟩ := Option.map_eq_some_iff.mp isMove
  simpa [MoveChecks.sanitized] using kept

theorem rightful_of_not_stale {world : World} {move : QueuedMove} (timely : ¬Stale move)
    (inPlace : move.taken = false → move.argument.id ∈ world.childrenOf move.target) :
    Rightful checks rules depth world move := by
  intro changes
  by_contra wrong
  rw [not_or] at wrong
  have taken : move.taken = true := by
    by_contra kept
    exact wrong.1 (inPlace (by simpa using kept))
  apply changes
  apply moveOperation_eq_self wrong.1
  · intro here
    exact timely ⟨taken, .inl here⟩
  · intro same
    exact timely ⟨taken, .inr same⟩

/-- Without stale Moves, every operation that took effect found its entity where it was expected. -/
theorem run_rightful (checks : MoveChecks) (rules : Ruleset) (depth : Nat) (world : World)
    (events : List MoveEvent)
    (timely : Admissible (step checks rules depth) Timely ⟨world, [], []⟩ events) :
    ∀ entry ∈ (run (step checks rules depth) ⟨world, [], []⟩ events).executed,
      Rightful checks rules depth entry.1 entry.2 := by
  suffices kept : InPlace (run (step checks rules depth) ⟨world, [], []⟩ events).world
      (run (step checks rules depth) ⟨world, [], []⟩ events).queue ∧
      ∀ entry ∈ (run (step checks rules depth) ⟨world, [], []⟩ events).executed,
        Rightful checks rules depth entry.1 entry.2 from kept.2
  apply run_invariant (fun state : MoveQueue => InPlace state.world state.queue ∧
    ∀ entry ∈ state.executed, Rightful checks rules depth entry.1 entry.2) _
    ⟨fun _ isMove => absurd isMove not_mem_nil, forall_mem_nil _⟩ timely
  rintro state event ⟨inPlace, rightful⟩ timely
  cases event with
  | think mover argument =>
    refine ⟨fun move isMove => ?_, rightful⟩
    rcases mem_append.mp isMove with isWaiting | isNew
    · exact inPlace move isWaiting
    · exact moveOtherEntity_inPlace move isNew
  | other operation => exact ⟨inPlace.after _, rightful⟩
  | dispatch index =>
    rw [step]
    cases found : state.queue[index]? with
    | none => exact ⟨inPlace, rightful⟩
    | some move =>
      have rest : InPlace state.world (state.queue.eraseIdx index) :=
        fun other isOther => inPlace other (mem_of_mem_eraseIdx isOther)
      refine ⟨rest.after _, fun entry isExecuted => ?_⟩
      rcases mem_append.mp isExecuted with isEarlier | isLast
      · exact rightful entry isEarlier
      · rw [mem_singleton.mp isLast]
        exact rightful_of_not_stale (timely move found)
          (inPlace move (mem_of_getElem? found))

def roomRules : Ruleset where
  address entity := entity
  typeDomain _ := some .void
  typeAmount _ := none
  received _ properties := properties
  released _ properties := properties

/-- Only a type, and it contains. -/
def plainTree (type : String) (contained : List EntityTree) : EntityTree :=
  .node { type := type, domain := none, amount := none, properties := [] } contained

/-- The first has a ball in it. -/
def rooms : World :=
  run (World.perform roomRules 2)
    { entity := fun _ =>
        { type := "world", parent := none, contains := some [], destroyed := false
          domainProperty := none, domain := none, stackable := false, amount := none
          properties := [] }
      eobjects := {baseId}
      nextId := 1 }
    [.addNewEntity (plainTree "room" [plainTree "ball" []]) baseId,
      .addNewEntity (plainTree "room" []) baseId]

/-- Movers who reach what is in the first room. -/
def roomChecks : MoveChecks where
  moverConstraint _ _ _ := true
  moveConstraint _ _ _ := true
  containConstraint _ _ _ _ := true
  destinationConstraint _ _ _ _ := true
  canReach world _ other := world.parentOf other = some 1
  canReachTarget _ _ _ _ := true

/-- Of two who move the ball, one comes too late. -/
theorem run_rightful_late_within :
    Admissible (step roomChecks roomRules 2) Timely ⟨rooms, [], []⟩
        [.think 10 ⟨2, some 3, none, []⟩, .think 11 ⟨2, none, none, []⟩, .dispatch 0, .dispatch 0] ∧
      ∀ entry ∈ (run (step roomChecks roomRules 2) ⟨rooms, [], []⟩
        [.think 10 ⟨2, some 3, none, []⟩, .think 11 ⟨2, none, none, []⟩, .dispatch 0,
          .dispatch 0]).executed, Rightful roomChecks roomRules 2 entry.1 entry.2 := by
  have timely : Admissible (step roomChecks roomRules 2) Timely ⟨rooms, [], []⟩
      [.think 10 ⟨2, some 3, none, []⟩, .think 11 ⟨2, none, none, []⟩, .dispatch 0,
        .dispatch 0] := by
    decide +kernel
  exact ⟨timely, run_rightful roomChecks roomRules 2 rooms _ timely⟩

/-- The ball is in the second. -/
def movedOut : World :=
  World.moveOperation roomRules 2 rooms 1 ⟨2, some 3, none, []⟩

/-- A mover comes too late. -/
theorem run_pulls_back :
    ¬∀ entry ∈ (run (step roomChecks roomRules 2) ⟨rooms, [], []⟩
      [.think 10 ⟨2, some 1, none, []⟩, .think 11 ⟨2, some 3, none, []⟩, .dispatch 1,
        .dispatch 0]).executed, Rightful roomChecks roomRules 2 entry.1 entry.2 := by
  intro rightful
  have late := rightful (movedOut, ⟨10, 1, ⟨2, some 1, none, []⟩, true⟩)
    (mem_cons_of_mem (rooms, _) mem_cons_self)
  have changes : World.moveOperation roomRules 2 movedOut 1 ⟨2, some 1, none, []⟩ ≠ movedOut := by
    intro same
    have parents := congrArg (World.parentOf · 2) same
    revert parents
    decide +kernel
  rcases late changes with isChild | ⟨-, isEntitled⟩
  · revert isChild
    decide +kernel
  · revert isEntitled
    decide +kernel

end MoveQueue

end Cyphesis.Simulation
