import Cyphesis.Foundation.Run
import Mathlib.Algebra.Order.Ring.Rat

/-!
# Steering

`Steering` leads the avatar along a path to a destination.  Numbers are exact.  What the awareness
and the mesh say comes with each update, and what is sent to the server is left out.
-/

namespace Cyphesis.Navigation

open Cyphesis.Foundation

inductive MeasureType where
  | center
  | edge
  deriving DecidableEq

variable {P : Type}

/-- `pos` is absent where invalid. -/
structure EntityLocation (P : Type) where
  parent : Option Nat
  pos : Option P
  deriving DecidableEq

/-- Where to steer, and from where and to where the distance is taken. -/
structure SteeringDestination (P : Type) where
  location : EntityLocation P
  distance : ℚ
  measureFromAvatar : MeasureType
  measureToDestination : MeasureType
  deriving DecidableEq

/-- What is around the avatar. -/
structure Surroundings (P : Type) where
  avatarPosition : Option P
  /-- `resolvePosition`: a position, and a radius. -/
  resolvePosition : EntityLocation P → Option (P × ℚ)
  horizontalDistance : P → P → ℚ
  findPath : Option P → P → ℚ → List P
  avatarHorizRadius : ℚ
  avoidObstacles : Bool

/-- The last three fields are history. -/
structure Steering (P : Type) where
  destination : SteeringDestination P
  path : List P := []
  currentPathIndex : Nat := 0
  steeringEnabled : Bool := false
  updateNeeded : Bool := false
  /-- What `setDestination` was last called with. -/
  lastSet : SteeringDestination P
  /-- Something changed since the last search. -/
  outdated : Bool := false
  /-- A decision in spite of changes. -/
  decidedOutdated : Bool := false

/-- What is asked of `Steering`, or signalled to it. -/
inductive SteeringEvent (P : Type) where
  | setDestination (destination : SteeringDestination P)
  | requestUpdate
  | tileUpdated
  | startSteering
  | stopSteering
  /-- There may be no awareness. -/
  | update (around : Option (Surroundings P))

namespace Steering

def distanceTo (around : Surroundings P) (location : EntityLocation P)
    (fromSelf toDestination : MeasureType) : Option ℚ :=
  around.avatarPosition.bind fun currentEntityPos =>
    (around.resolvePosition location).map fun resolved =>
      let distance := around.horizontalDistance currentEntityPos resolved.1
      let distance := if fromSelf = .edge then distance - around.avatarHorizRadius else distance
      max 0 (if toDestination = .edge then distance - resolved.2 else distance)

def isAtDestination (around : Surroundings P) (destination : SteeringDestination P) : Bool :=
  (distanceTo around destination.location destination.measureFromAvatar
    destination.measureToDestination).any (· ≤ destination.distance)

def isAtCurrentDestination (steering : Steering P) (around : Surroundings P) : Bool :=
  isAtDestination around steering.destination

/-- Without a position there is no path. -/
def updatePath (steering : Steering P) (around : Surroundings P) : Steering P :=
  let cleared := { steering with path := [], currentPathIndex := 0, outdated := false }
  match around.resolvePosition steering.destination.location with
  | none => cleared
  | some resolved =>
    { cleared with
      path := around.findPath around.avatarPosition resolved.1 steering.destination.distance
      updateNeeded := false }

def stopSteering (steering : Steering P) : Steering P :=
  if steering.steeringEnabled then
    { steering with steeringEnabled := false, path := [], currentPathIndex := 0 }
  else steering

/-- How many waypoints were reached. -/
def reached (near : P → Bool) : List P → Nat
  | waypoint :: next :: rest => if near waypoint then reached near (next :: rest) + 1 else 0
  | _ => 0

/-- `Steering::update`, with what it finds around the avatar. -/
def update (steering : Steering P) (around : Surroundings P) : Steering P :=
  if steering.steeringEnabled then
    let searched := if steering.updateNeeded then steering.updatePath around else steering
    let decided :=
      { searched with decidedOutdated := searched.decidedOutdated || searched.outdated }
    if decided.path = [] then decided
    else if decided.isAtCurrentDestination around then decided.stopSteering
    else
      let near := fun waypoint => around.avatarPosition.any fun entityPosition =>
        around.horizontalDistance waypoint entityPosition < around.avatarHorizRadius
      { decided with
        currentPathIndex := decided.currentPathIndex +
          reached near (decided.path.drop decided.currentPathIndex)
        updateNeeded := decided.updateNeeded || around.avoidObstacles }
  else steering

variable [DecidableEq P]

/-- Does the destination name another place than the stored one? -/
def differs (isEqualTo : Option P → Option P → Bool) (first second : EntityLocation P) : Bool :=
  !isEqualTo first.pos second.pos || first.parent != second.parent

variable (isEqualTo : Option P → Option P → Bool)

def setDestination (steering : Steering P) (destination : SteeringDestination P) : Steering P :=
  let noted :=
    { steering with
      lastSet := destination
      outdated := steering.outdated || decide (destination ≠ steering.lastSet) }
  if differs isEqualTo destination.location steering.destination.location then
    { noted with destination := destination, updateNeeded := true }
  else noted

def step (steering : Steering P) : SteeringEvent P → Steering P
  | .setDestination destination => steering.setDestination isEqualTo destination
  | .requestUpdate => { steering with updateNeeded := true }
  | .tileUpdated => { steering with updateNeeded := true, outdated := true }
  | .startSteering => { steering with steeringEnabled := true }
  | .stopSteering => steering.stopSteering
  | .update around => around.elim steering steering.update

/-- The destination is the last set, the waypoint on the path, and paths are up to date. -/
structure InOrder (steering : Steering P) : Prop where
  destination : steering.destination = steering.lastSet
  waypoint : steering.path ≠ [] → steering.currentPathIndex < steering.path.length
  needed : steering.outdated = true → steering.updateNeeded = true
  decided : steering.decidedOutdated = false

/-- Set at another place, or the same. -/
def TakesEffect (steering : Steering P) : SteeringEvent P → Prop
  | .setDestination destination =>
    differs isEqualTo destination.location steering.destination.location = true ∨
      destination = steering.destination
  | _ => True

omit [DecidableEq P] in
theorem reached_lt (near : P → Bool) :
    ∀ {path : List P}, path ≠ [] → reached near path < path.length
  | [], notEmpty => absurd rfl notEmpty
  | [_], _ => Nat.one_pos
  | waypoint :: next :: rest, _ => by
    rw [reached, List.length_cons]
    split
    · exact Nat.succ_lt_succ (reached_lt near (List.cons_ne_nil next rest))
    · exact Nat.succ_pos _

omit [DecidableEq P] in
theorem InOrder.updatePath {steering : Steering P} (inOrder : steering.InOrder)
    (around : Surroundings P) : (steering.updatePath around).InOrder := by
  unfold Steering.updatePath
  cases around.resolvePosition steering.destination.location with
  | none => exact ⟨inOrder.destination, fun some => absurd rfl some, nofun, inOrder.decided⟩
  | some resolved =>
    exact ⟨inOrder.destination, List.length_pos_iff.mpr, nofun, inOrder.decided⟩

omit [DecidableEq P] in
theorem InOrder.stopSteering {steering : Steering P} (inOrder : steering.InOrder) :
    steering.stopSteering.InOrder := by
  unfold Steering.stopSteering
  split
  · exact ⟨inOrder.destination, fun some => absurd rfl some, inOrder.needed, inOrder.decided⟩
  · exact inOrder

omit [DecidableEq P] in
theorem outdated_updatePath (steering : Steering P) (around : Surroundings P) :
    (steering.updatePath around).outdated = false := by
  unfold updatePath
  cases around.resolvePosition steering.destination.location <;> rfl

omit [DecidableEq P] in
theorem InOrder.update {steering : Steering P} (inOrder : steering.InOrder)
    (around : Surroundings P) : (steering.update around).InOrder := by
  unfold Steering.update
  split
  · generalize isSearched : ite (steering.updateNeeded = true) _ _ = searched
    have kept : searched.InOrder := by
      rw [← isSearched]
      split
      · exact inOrder.updatePath around
      · exact inOrder
    have current : searched.outdated = false := by
      rw [← isSearched]
      split
      · exact outdated_updatePath steering around
      next notNeeded => exact Bool.eq_false_iff.mpr fun old => notNeeded (inOrder.needed old)
    have decided : (searched.decidedOutdated || searched.outdated) = false := by
      rw [kept.decided, current, Bool.or_self]
    dsimp only
    split
    · exact ⟨kept.destination, kept.waypoint, kept.needed, decided⟩
    next notEmpty =>
      split
      · exact InOrder.stopSteering ⟨kept.destination, kept.waypoint, kept.needed, decided⟩
      · refine ⟨kept.destination, fun _ => ?_, fun old => ?_, decided⟩
        · have onPath := kept.waypoint notEmpty
          have rest : searched.path.drop searched.currentPathIndex ≠ [] := by
            rw [Ne, List.drop_eq_nil_iff]
            omega
          have further := fun near => reached_lt near rest
          simp only [List.length_drop] at further
          exact Nat.add_lt_of_lt_sub' (further _)
        · rw [current] at old
          contradiction
  · exact inOrder

theorem inOrder_step_iff (steering : Steering P) (event : SteeringEvent P)
    (inOrder : steering.InOrder) :
    (steering.step isEqualTo event).InOrder ↔ steering.TakesEffect isEqualTo event := by
  cases event with
  | setDestination destination =>
    simp only [step, setDestination, TakesEffect]
    split
    next differs =>
      exact iff_of_true ⟨rfl, inOrder.waypoint, fun _ => rfl, inOrder.decided⟩ (.inl differs)
    next same =>
      constructor
      · intro next
        exact .inr next.destination.symm
      · rintro (differs | rfl)
        · exact absurd differs same
        · refine ⟨rfl, inOrder.waypoint, fun old => inOrder.needed ?_, inOrder.decided⟩
          simpa [inOrder.destination] using old
  | requestUpdate =>
    exact iff_of_true ⟨inOrder.destination, inOrder.waypoint, fun _ => rfl, inOrder.decided⟩ trivial
  | tileUpdated =>
    exact iff_of_true ⟨inOrder.destination, inOrder.waypoint, fun _ => rfl, inOrder.decided⟩ trivial
  | startSteering =>
    exact iff_of_true
      ⟨inOrder.destination, inOrder.waypoint, inOrder.needed, inOrder.decided⟩ trivial
  | stopSteering => exact iff_of_true inOrder.stopSteering trivial
  | update around =>
    refine iff_of_true ?_ trivial
    cases around with
    | none => exact inOrder
    | some around => exact inOrder.update around

/-- A new `Steering`, to which nothing was set. -/
def created (none : SteeringDestination P) : Steering P where
  destination := none
  lastSet := none

/-- The avatar is steered to what was set last, just if every destination takes effect. -/
theorem run_steering_iff (none : SteeringDestination P) (events : List (SteeringEvent P)) :
    (∀ count, (run (step isEqualTo) (created none) (events.take count)).InOrder) ↔
      Admissible (step isEqualTo) (TakesEffect isEqualTo) (created none) events :=
  run_take_iff InOrder (inOrder_step_iff isEqualTo)
    ⟨rfl, fun some => absurd rfl some, fun old => by simp [created] at old, rfl⟩ events

/-- To one metre and not to five. -/
theorem setDestination_closer_ignored :
    ¬ ∀ events : List (SteeringEvent ℚ),
      (run (step fun first second => decide (first = second))
        (created ⟨⟨none, none⟩, 0, .center, .center⟩) events).InOrder := by
  intro always
  have kept := always [.setDestination ⟨⟨none, some 3⟩, 5, .center, .center⟩,
    .setDestination ⟨⟨none, some 3⟩, 1, .center, .center⟩]
  exact absurd kept.destination (by decide +kernel)

end Steering

end Cyphesis.Navigation
