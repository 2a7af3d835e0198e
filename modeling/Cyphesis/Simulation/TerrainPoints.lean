import Cyphesis.Foundation.MachineInt
import Cyphesis.Foundation.Run
import Mathlib.Data.Rat.Floor

/-!
# Terrain points

The `terrain_points` property describes base points of a terrain that outlives its values. Heights
are exact, and `setBasePoint` overwrites one point. Coordinates are `int`s of 32 bits; what leaves
their range has no result.
-/

namespace Cyphesis.Simulation

open Cyphesis.Foundation
open Function

structure BasePoint where
  height : ℚ
  roughness : ℚ
  falloff : ℚ
  deriving DecidableEq

/-- `BasePoint::ROUGHNESS` and `BasePoint::FALLOFF` -/
structure BasePointDefaults where
  roughness : ℚ
  falloff : ℚ

/-- By name: lists of numbers, or anything else. -/
abbrev TerrainPoints := List (Option (List (Option ℚ)))

/-- Base points of a terrain. -/
abbrev Terrain := Int × Int → Option BasePoint

/-- Least and greatest coordinates. -/
structure ChangedBounds where
  minX : Int
  maxX : Int
  minY : Int
  maxY : Int

/-- An area by its corners. -/
structure Area where
  minCorner : Int × Int
  maxCorner : Int × Int

namespace TerrainPoints

/-- Conversion of a `double` to an `int`. -/
def truncate (number : ℚ) : Int :=
  if 0 ≤ number then ⌊number⌋ else ⌈number⌉

/-- What an entry describes, if anything. -/
def describedPoint (defaults : BasePointDefaults) :
    Option (List (Option ℚ)) → Option ((Int × Int) × BasePoint)
  | some (some x :: some y :: some h :: rest) =>
    let place := (truncate x, truncate y)
    match rest with
    | [] => some (place, ⟨h, defaults.roughness, defaults.falloff⟩)
    | [some roughness] => some (place, ⟨h, roughness, defaults.falloff⟩)
    | some roughness :: some falloff :: _ => some (place, ⟨h, roughness, falloff⟩)
    | _ => none
  | _ => none

/-- `minX` and the others before the loop: nothing has changed. -/
def noBounds : ChangedBounds :=
  ⟨maxInt, minInt, maxInt, minInt⟩

def widen (bounds : ChangedBounds) (place : Int × Int) : ChangedBounds :=
  ⟨min bounds.minX place.1, max bounds.maxX place.1, min bounds.minY place.2,
    max bounds.maxY place.2⟩

/-- One turn of the loop in `apply`. -/
def enter (state : Terrain × ChangedBounds) (point : (Int × Int) × BasePoint) :
    Terrain × ChangedBounds :=
  if state.1 point.1 = some point.2 then state
  else (update state.1 point.1 (some point.2), widen state.2 point.1)

variable (defaults : BasePointDefaults) (spacing : Nat)

/-- The areas to refresh: none if `minX` is as before the loop, else one. -/
def changedAreas (bounds : ChangedBounds) : Option (List Area) :=
  if bounds.minX = maxInt then some []
  else do
    let minX ← toInt (bounds.minX - 1)
    let minY ← toInt (bounds.minY - 1)
    let maxX ← toInt (bounds.maxX + 1)
    let maxY ← toInt (bounds.maxY + 1)
    return [⟨(minX * spacing, minY * spacing), (maxX * spacing, maxY * spacing)⟩]

variable (value : TerrainPoints)

/-- The coordinates that the value describes are `int`s. -/
def IntPlaces : Prop :=
  ∀ point ∈ value.filterMap (describedPoint defaults), FitsInt point.1.1 ∧ FitsInt point.1.2

instance : Decidable (IntPlaces defaults value) :=
  inferInstanceAs (Decidable (∀ _ ∈ _, _))

/-- `TerrainPointsProperty::apply`, with the areas handed to the domain. -/
def apply (terrain : Terrain) : Option (Terrain × List Area) :=
  if IntPlaces defaults value then
    let state := (value.filterMap (describedPoint defaults)).foldl enter (terrain, noBounds)
    (changedAreas spacing state.2).map (state.1, ·)
  else none

/-- The terrain after `apply`; where that is undefined, as it was. -/
def applied (terrain : Terrain) : Terrain :=
  ((apply defaults spacing value terrain).map Prod.fst).getD terrain

/-- The value describes the point. -/
def Describes (place : Int × Int) (point : BasePoint) : Prop :=
  (place, point) ∈ value.filterMap (describedPoint defaults)

/-- `apply` has a result, which is the terrain as described; the same value again changes nothing;
and the segments adjacent to a point that changed are in an area. -/
def Follows (before : Terrain) (value : TerrainPoints) : Prop :=
  ∃ after areas, apply defaults spacing value before = some (after, areas) ∧
    (∀ place point, after place = some point ↔ Describes defaults value place point) ∧
    apply defaults spacing value after = some (after, []) ∧
    ∀ place, after place ≠ before place →
      ∀ segmentX segmentY, (segmentX = place.1 - 1 ∨ segmentX = place.1) →
        (segmentY = place.2 - 1 ∨ segmentY = place.2) →
          ∃ area ∈ areas,
            area.minCorner.1 ≤ segmentX * spacing ∧ (segmentX + 1) * spacing ≤ area.maxCorner.1 ∧
            area.minCorner.2 ≤ segmentY * spacing ∧ (segmentY + 1) * spacing ≤ area.maxCorner.2

/-- Neither the first `int` nor the last. -/
def Inner (place : Int × Int) : Prop :=
  (minInt < place.1 ∧ place.1 < maxInt) ∧ minInt < place.2 ∧ place.2 < maxInt

/-- Entries agree about places, which are `int`s; each base point of the terrain is described; and
what is not yet as described lies inside the range of coordinates. -/
structure Complete (before : Terrain) (value : TerrainPoints) : Prop where
  ints : IntPlaces defaults value
  single : ∀ place first second, Describes defaults value place first →
    Describes defaults value place second → first = second
  kept : ∀ place point, before place = some point → ∃ other, Describes defaults value place other
  inner : ∀ place point, Describes defaults value place point →
    before place = some point ∨ Inner place

/-- The place is within the bounds. -/
def Within (place : Int × Int) (bounds : ChangedBounds) : Prop :=
  bounds.minX ≤ place.1 ∧ place.1 ≤ bounds.maxX ∧ bounds.minY ≤ place.2 ∧ place.2 ≤ bounds.maxY

/-- The bounds can be widened by one in each direction. -/
def Roomy (bounds : ChangedBounds) : Prop :=
  (minInt < bounds.minX ∧ bounds.minX ≤ maxInt) ∧ (minInt ≤ bounds.maxX ∧ bounds.maxX < maxInt) ∧
    (minInt < bounds.minY ∧ bounds.minY ≤ maxInt) ∧ minInt ≤ bounds.maxY ∧ bounds.maxY < maxInt

theorem Roomy.widen {bounds : ChangedBounds} (roomy : Roomy bounds) {place : Int × Int}
    (inner : Inner place) : Roomy (widen bounds place) := by
  unfold Roomy Inner TerrainPoints.widen at *
  dsimp only
  omega

section

variable (points : List ((Int × Int) × BasePoint)) (state : Terrain × ChangedBounds)

end

end TerrainPoints

end Cyphesis.Simulation
