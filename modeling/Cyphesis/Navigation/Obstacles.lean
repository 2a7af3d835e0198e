import Cyphesis.Foundation.PriorityQueue
import Mathlib.Algebra.Order.Ring.Rat

/-!
# Obstacle avoidance

A few of the moving entities are handed to the avoidance query, from a priority queue with the
farthest on top. Numbers are exact, and distances are compared by their squares; whether two circles
meet is a parameter.
-/

namespace Cyphesis.Navigation

open Cyphesis.Foundation
open List

namespace Avoidance

/-- What is known of a moving entity. -/
structure MovingEntity where
  entityId : Int
  pos : Option (ℚ × ℚ × ℚ)
  velocity : Option (ℚ × ℚ × ℚ)
  velocityTimestamp : ℚ
  lowCorner : ℚ × ℚ × ℚ
  highCorner : ℚ × ℚ × ℚ

structure Ball where
  center : ℚ × ℚ
  radius : ℚ

structure EntityCollisionEntry where
  distance : ℚ
  entity : MovingEntity
  viewRadius : Ball

def squaredDistance (first second : ℚ × ℚ) : ℚ :=
  (first.1 - second.1) * (first.1 - second.1) + (first.2 - second.2) * (first.2 - second.2)

/-- Where an entity is now, seen from above. -/
def entityView2dPos (entity : MovingEntity) (currentTimestamp : ℚ) : Option (ℚ × ℚ) :=
  entity.pos.map fun pos =>
    match entity.velocity with
    | none => (pos.1, pos.2.2)
    | some velocity =>
      let timeDiff := currentTimestamp - entity.velocityTimestamp
      (pos.1 + velocity.1 * timeDiff, pos.2.2 + velocity.2.2 * timeDiff)

variable (meets : Ball → Ball → Bool)

/-- `meets` is `Intersect` or `Contains`. -/
def collisionEntry (avatarEntityId : Int) (position : ℚ × ℚ) (currentTimestamp : ℚ)
    (entity : MovingEntity) : Option EntityCollisionEntry :=
  if entity.entityId = avatarEntityId then none
  else
    (entityView2dPos entity currentTimestamp).bind fun view =>
      let viewRadius := ⟨view, (entity.highCorner.1 - entity.lowCorner.2.2) / 2⟩
      if meets ⟨position, 5⟩ viewRadius then
        some ⟨squaredDistance position view, entity, viewRadius⟩
      else none

/-- No later entry is above an earlier one. -/
def Above (first second : EntityCollisionEntry) : Prop :=
  ¬ first.distance < second.distance

instance : DecidableRel Above :=
  fun _ _ => inferInstanceAs (Decidable (¬ _))

instance : Std.Total Above where
  total first second := by
    by_contra both
    rw [not_or, Above, Above, not_not, not_not] at both
    exact lt_asymm both.1 both.2

instance : IsTrans EntityCollisionEntry Above where
  trans _ _ _ above next less :=
    above (lt_of_lt_of_le less (le_of_not_gt next))

/-- Take from the top of the queue. -/
def handOver : Nat → PriorityQueue Above → List EntityCollisionEntry
  | 0, _ => []
  | turns + 1, queue =>
    match queue.top? with
    | none => []
    | some entry => entry :: handOver turns queue.pop

variable (entries : List EntityCollisionEntry)

def nearestEntities : PriorityQueue Above :=
  entries.foldl PriorityQueue.push .empty

/-- `MAX_OBSTACLES_CIRCLES`. -/
def maxObstaclesCircles : Nat := 4

/-- The circles for `Awareness::avoidObstacles`. -/
def avoidObstacles (movingEntities : List MovingEntity) (avatarEntityId : Int) (position : ℚ × ℚ)
    (currentTimestamp : ℚ) : List EntityCollisionEntry :=
  handOver maxObstaclesCircles (nearestEntities
      (movingEntities.filterMap (collisionEntry meets avatarEntityId position currentTimestamp)))

/-- Enough, and none left out is nearer. -/
def NearestTaken (candidates taken : List EntityCollisionEntry) : Prop :=
  taken.length = min maxObstaclesCircles candidates.length ∧
    ∃ leftOut, (taken ++ leftOut).Perm candidates ∧
      ∀ entry ∈ taken, ∀ other ∈ leftOut, ¬ other.distance < entry.distance

theorem handOver_eq (turns : Nat) (queue : PriorityQueue Above) :
    handOver turns queue = queue.entries.take turns := by
  induction turns generalizing queue with
  | zero => rfl
  | succ turns ih =>
    rw [handOver]
    cases isTop : queue.top? with
    | none => rw [head?_eq_none_iff.mp isTop, take_nil]
    | some entry => rw [PriorityQueue.entries_of_top? isTop, take_succ_cons, ih]

theorem nearestEntities_perm : (nearestEntities entries).entries.Perm entries := by
  have pushed (queue : PriorityQueue Above) :
      (entries.foldl PriorityQueue.push queue).entries.Perm (entries ++ queue.entries) := by
    induction entries generalizing queue with
    | nil => exact Perm.refl _
    | cons entry rest ih =>
      refine (ih (queue.push entry)).trans ?_
      exact ((queue.push_perm entry).append_left rest).trans perm_middle
  simpa [nearestEntities, PriorityQueue.empty] using pushed .empty

/-- The farthest are taken. -/
theorem nearestTaken_handOver_iff (candidates : List EntityCollisionEntry) :
    NearestTaken candidates (handOver maxObstaclesCircles (nearestEntities candidates)) ↔
      candidates.length ≤ maxObstaclesCircles ∨
        ∀ first ∈ candidates, ∀ second ∈ candidates, first.distance = second.distance := by
  have same := nearestEntities_perm candidates
  have sorted := (nearestEntities candidates).sorted
  rw [handOver_eq]
  generalize (nearestEntities candidates).entries = entries at same sorted
  rw [← take_append_drop maxObstaclesCircles entries, pairwise_append] at sorted
  obtain ⟨-, -, above⟩ := sorted
  constructor
  · rintro ⟨-, leftOut, all, nearest⟩
    by_cases few : candidates.length ≤ maxObstaclesCircles
    · exact .inl few
    · right
      have rest : leftOut.Perm (entries.drop maxObstaclesCircles) := by
        rw [← perm_append_left_iff (entries.take maxObstaclesCircles), take_append_drop]
        exact all.trans same.symm
      -- what is left out is neither nearer nor farther than what is taken
      have equal : ∀ entry ∈ entries.take maxObstaclesCircles,
          ∀ other ∈ entries.drop maxObstaclesCircles, entry.distance = other.distance := by
        intro entry isTaken other isLeft
        exact le_antisymm (le_of_not_gt (nearest entry isTaken other (rest.mem_iff.mpr isLeft)))
          (le_of_not_gt (above entry isTaken other isLeft))
      rw [← same.length_eq, not_le] at few
      obtain ⟨taken, isTaken⟩ : ∃ taken, taken ∈ entries.take maxObstaclesCircles :=
        exists_mem_of_length_pos (by rw [length_take, maxObstaclesCircles] at *; omega)
      obtain ⟨other, isLeft⟩ : ∃ other, other ∈ entries.drop maxObstaclesCircles :=
        exists_mem_of_length_pos (by rw [length_drop]; omega)
      have common : ∀ entry ∈ candidates, entry.distance = taken.distance := by
        intro entry isCandidate
        rw [← same.mem_iff, ← take_append_drop maxObstaclesCircles entries, mem_append]
          at isCandidate
        rcases isCandidate with first | last
        · exact (equal entry first other isLeft).trans (equal taken isTaken other isLeft).symm
        · exact (equal taken isTaken entry last).symm
      intro first isFirst second isSecond
      exact (common first isFirst).trans (common second isSecond).symm
  · intro enough
    refine ⟨by rw [length_take, same.length_eq], entries.drop maxObstaclesCircles, ?_, ?_⟩
    · rw [take_append_drop]
      exact same
    · intro entry isTaken other isLeft
      rcases enough with few | equal
      · rw [drop_eq_nil_of_le (by rwa [same.length_eq])] at isLeft
        contradiction
      · rw [equal other (same.mem_iff.mp (mem_of_mem_drop isLeft)) entry
          (same.mem_iff.mp (mem_of_mem_take isTaken))]
        exact lt_irrefl _

theorem avoidObstacles_nearest_iff (movingEntities : List MovingEntity) (avatarEntityId : Int)
    (position : ℚ × ℚ) (currentTimestamp : ℚ) :
    let candidates :=
      movingEntities.filterMap (collisionEntry meets avatarEntityId position currentTimestamp)
    NearestTaken candidates
        (avoidObstacles meets movingEntities avatarEntityId position currentTimestamp) ↔
      candidates.length ≤ maxObstaclesCircles ∨
        ∀ first ∈ candidates, ∀ second ∈ candidates, first.distance = second.distance :=
  nearestTaken_handOver_iff _

/-- The nearest of five is left out. -/
theorem avoidObstacles_nearest_left_out :
    ¬ ∀ (meets : Ball → Ball → Bool) (movingEntities : List MovingEntity) (avatarEntityId : Int)
        (position : ℚ × ℚ) (currentTimestamp : ℚ),
      NearestTaken
        (movingEntities.filterMap (collisionEntry meets avatarEntityId position currentTimestamp))
        (avoidObstacles meets movingEntities avatarEntityId position currentTimestamp) := by
  intro always
  have nearest := always (fun first second => squaredDistance first.center second.center ≤
      (first.radius + second.radius) * (first.radius + second.radius))
    ([1, 2, 3, 4, 5].map fun place => ⟨place, some (place, 0, 0), none, 0, (0, 0, 0), (0, 0, 0)⟩)
    0 (0, 0) 0
  rw [avoidObstacles, nearestTaken_handOver_iff] at nearest
  revert nearest
  decide +kernel

end Avoidance

end Cyphesis.Navigation
