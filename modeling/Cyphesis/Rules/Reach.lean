import Cyphesis.Rules.LocatedEntity

/-!
# Who can reach whom

`canReach` climbs from a place to the domain around the reaching entity, and asks every domain on
the way back down. The entity of the place is a reference which may be empty.
-/

namespace Cyphesis.Rules

open Cyphesis.Foundation

/-- A use of something that is not there, or an exception of `Point::fromAtlas`. -/
inductive Fault where
  | missingEntity
  | missingParent
  | failedCast
  | badPoint
  deriving DecidableEq

/-- Use a reference. -/
def deref {α : Type} (fault : Fault) : Option α → Except Fault α
  | some value => .ok value
  | none => .error fault

/-- `Domain::isEntityReachable`. -/
abbrev Reachability (ι δ : Type) : Type :=
  ι → δ → ι → Option (List δ) → Bool

/-- What reaching reads of the world. -/
structure ReachScene (ι δ : Type) where
  parent : ι → Option ι
  flags : ι → Flags
  /-- The reach property. -/
  reach : ι → Option δ
  domain : ι → Option (Reachability ι δ)
  depth : ι → Nat
  depth_parent : ∀ entity above, parent entity = some above → depth above < depth entity

namespace ReachScene

variable {ι δ : Type} [DecidableEq ι] [Zero δ] [Add δ] (world : ReachScene ι δ)

def hasFlags (entity : ι) (mask : BitVec 32) : Bool :=
  (world.flags entity).hasFlags mask

/-- The entities above an entity, nearest first. -/
def ancestorsWithin : Nat → ι → List ι
  | 0, _ => []
  | steps + 1, entity =>
    match world.parent entity with
    | none => []
    | some above => above :: ancestorsWithin steps above

/-- Where `m_parent` leads. -/
def ancestors (entity : ι) : List ι :=
  world.ancestorsWithin (world.depth entity) entity

/-- The nearest domain, and the top below. -/
def findReacherDomain : ι → List ι → Option ι × ι
  | topReachingEntity, [] => (none, topReachingEntity)
  | topReachingEntity, domainEntity :: above =>
    if (world.domain domainEntity).isSome then (some domainEntity, topReachingEntity)
    else findReacherDomain domainEntity above

/-- Where the second loop ends. -/
inductive Climb (ι : Type) where
  /-- The target is in the domain of the reaching entity. -/
  | containing
  | unrelated
  /-- The entities to walk down, topmost first. -/
  | found (toAncestors : List ι)

/-- Up to where the domain is, or to the top. -/
def climb (reachingEntity target : ι) (reacherDomainEntity : Option ι) (topReachingEntity : ι) :
    List ι → ι → List ι → Climb ι
  | toAncestors, ancestorEntity, above =>
    if some ancestorEntity = reacherDomainEntity then
      if ancestorEntity = target then .containing else .found toAncestors
    else if ancestorEntity = reachingEntity then .found toAncestors
    else if ancestorEntity = topReachingEntity then .found (ancestorEntity :: toAncestors)
    else
      match above with
      | [] => .unrelated
      | next :: above =>
        climb reachingEntity target reacherDomainEntity topReachingEntity
          (ancestorEntity :: toAncestors) next above

variable (reachingEntity : ι)

/-- The domain above lets it reach. -/
def lets (reachDistance : δ) (pos : Option (List δ)) (ancestor : ι) : Bool :=
  match (world.parent ancestor).bind world.domain with
  | some isEntityReachable => isEntityReachable reachingEntity reachDistance ancestor pos
  | none => true

/-- `canReach`, when both entities are there. -/
def reaches (reachingEntity target : ι) (pos : Option (List δ)) (extraReach : δ) : Bool :=
  let reachDistance := (world.reach reachingEntity).getD 0 + extraReach
  let (reacherDomainEntity, topReachingEntity) :=
    world.findReacherDomain reachingEntity (world.ancestors reachingEntity)
  match climb reachingEntity target reacherDomainEntity topReachingEntity [] target
      (world.ancestors target) with
  | .containing =>
    match world.domain target with
    | some isEntityReachable => isEntityReachable reachingEntity reachDistance target pos
    | none => true
  | .unrelated => false
  | .found [] => false
  | .found toAncestors => toAncestors.all (world.lets reachingEntity reachDistance pos)

/-- `LocatedEntity::canReach`: itself, then administrators, then by the domains. -/
def canReach (place : Option ι) (pos : Option (List δ)) (extraReach : δ) :
    Except Fault Bool :=
  if some reachingEntity = place then .ok true
  else if world.hasFlags reachingEntity entityAdmin then .ok true
  else if world.hasFlags reachingEntity entityDestroyed then .ok false
  else do
    let target ← deref .missingEntity place
    if world.hasFlags target entityDestroyed then return false
    return world.reaches reachingEntity target pos extraReach

theorem canReach_some (reachingEntity target : ι) (pos : Option (List δ)) (extraReach : δ) :
    ∃ answer, world.canReach reachingEntity (some target) pos extraReach = .ok answer := by
  unfold canReach
  split
  · exact ⟨true, rfl⟩
  split
  · exact ⟨true, rfl⟩
  split
  · exact ⟨false, rfl⟩
  · simp only [deref, bind, Except.bind]
    split
    · exact ⟨false, rfl⟩
    · exact ⟨_, rfl⟩

theorem canReach_none (pos : Option (List δ)) (extraReach : δ) :
    (∃ answer, world.canReach reachingEntity none pos extraReach = .ok answer) ↔
      world.hasFlags reachingEntity entityAdmin = true ∨
        world.hasFlags reachingEntity entityDestroyed = true := by
  unfold canReach
  rw [if_neg (by simp)]
  by_cases admin : world.hasFlags reachingEntity entityAdmin = true
  · simp [admin]
  · by_cases destroyed : world.hasFlags reachingEntity entityDestroyed = true
    · simp [admin, destroyed]
    · simp [admin, destroyed, deref, bind, Except.bind]

end ReachScene

end Cyphesis.Rules
