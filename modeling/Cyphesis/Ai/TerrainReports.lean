import Cyphesis.Navigation.CurrentData
import Cyphesis.Simulation.TerrainPoints

/-!
# Terrain changes and tiles

What a mind reads about its domain entity goes to the shared terrain, and from there to the tiles.
Numbers are exact.
-/

namespace Cyphesis.Navigation

open Cyphesis.Simulation

theorem mem_tilesBetween {minX maxX minZ maxZ : Int} {tile : Tile} :
    tile ∈ tilesBetween minX maxX minZ maxZ ↔
      (minX ≤ tile.1 ∧ tile.1 ≤ maxX) ∧ minZ ≤ tile.2 ∧ tile.2 ≤ maxZ := by
  simp only [tilesBetween, List.mem_flatMap, List.mem_range, List.mem_map]
  constructor
  · rintro ⟨x, isX, z, isZ, rfl⟩
    dsimp only
    omega
  · intro inside
    refine ⟨(tile.1 - minX).toNat, by omega, (tile.2 - minZ).toNat, by omega, ?_⟩
    ext <;> dsimp only <;> omega

/-- One dimension of `mCfg`. -/
structure TileRow where
  bmin : ℚ
  bmax : ℚ
  tilesize : ℚ
  ordered : bmin ≤ bmax
  positive : 0 < tilesize

namespace TileRow

variable (row : TileRow)

variable (coordinate : ℚ)

/-- A corner of an area, moved to the limits. -/
def corner : ℚ :=
  let raised := if coordinate < row.bmin then row.bmin else coordinate
  if row.bmax < raised then row.bmax else raised

/-- `findAffectedTiles`, for one of the corners. -/
def affectedTile : Int :=
  TerrainPoints.truncate ((row.corner coordinate - row.bmin) / row.tilesize)

/-- The tile has a part between the two corners. -/
def Meets (low high : ℚ) (tile : Int) : Prop :=
  row.corner low < row.bmin + (tile + 1) * row.tilesize ∧
    row.bmin + tile * row.tilesize ≤ row.corner high

/-- The tile overlaps a segment that has the base point as a corner. -/
def Beside (res : Nat) (base tile : Int) : Prop :=
  ∃ segment : Int, (segment = base - 1 ∨ segment = base) ∧
    row.bmin + tile * row.tilesize < (segment + 1) * res ∧
    segment * res < row.bmin + (tile + 1) * row.tilesize

theorem affectedTile_eq :
    row.affectedTile coordinate = ⌊(row.corner coordinate - row.bmin) / row.tilesize⌋ := by
  have above : row.bmin ≤ row.corner coordinate := by
    have ordered := row.ordered
    unfold corner
    grind
  rw [affectedTile, TerrainPoints.truncate,
    if_pos (div_nonneg (sub_nonneg.mpr above) row.positive.le)]

/-- The tiles between the corners meet the area. -/
theorem affected_iff (low high : ℚ) (tile : Int) :
    row.affectedTile low ≤ tile ∧ tile ≤ row.affectedTile high ↔ row.Meets low high tile := by
  rw [affectedTile_eq, affectedTile_eq, ← Int.lt_add_one_iff, Int.floor_lt, Int.le_floor,
    div_lt_iff₀ row.positive, le_div_iff₀ row.positive, Meets, sub_lt_iff_lt_add',
    le_sub_iff_add_le', Int.cast_add, Int.cast_one]

end TileRow

end Cyphesis.Navigation

namespace Cyphesis.Ai

open Cyphesis.Navigation Cyphesis.Simulation
open Function

/-- What `AwareMind` has of the ground. -/
structure TerrainMind where
  /-- `mSharedTerrain` -/
  terrain : Terrain
  /-- `mAwareness` -/
  awareness : Option Awareness

/-- The domain entity, `terrain` and `terrain_points`. -/
inductive DomainReport where
  | entityAdded (terrainPoints : Option TerrainPoints)
  | entityUpdated (terrain terrainPoints : Option TerrainPoints)

/-- The base points that a report about the domain entity brings. -/
def DomainReport.points : DomainReport → TerrainPoints
  | entityAdded terrainPoints => terrainPoints.getD []
  | entityUpdated terrain terrainPoints => terrain.getD [] ++ terrainPoints.getD []

/-- `setBasePoints`, with what changed. -/
def setBasePoints (terrain : Terrain) :
    List ((Int × Int) × BasePoint) → Terrain × List ((Int × Int) × BasePoint)
  | [] => (terrain, [])
  | point :: rest =>
    if terrain point.1 = some point.2 then setBasePoints terrain rest
    else
      let changed := setBasePoints (update terrain point.1 (some point.2)) rest
      (changed.1, point :: changed.2)

namespace TerrainMind

variable (defaults : BasePointDefaults) (res : Nat) (rowX rowY : TileRow)

/-- What `parseTerrain` takes from one entry. -/
def pointDefinition : Option (List (Option ℚ)) → Option ((Int × Int) × BasePoint)
  | some [some x, some y, some h] =>
    some ((TerrainPoints.truncate x, TerrainPoints.truncate y),
      ⟨h, defaults.roughness, defaults.falloff⟩)
  | _ => none

/-- The last loop of `parseTerrain`, for one tile. -/
def markAround (awareness : Awareness) (entry : (Int × Int) × BasePoint) : Awareness :=
  awareness.markTilesAsDirty
    (rowX.affectedTile (entry.1.1 - res)) (rowX.affectedTile (entry.1.1 + res))
    (rowY.affectedTile (entry.1.2 - res)) (rowY.affectedTile (entry.1.2 + res))

variable (mind : TerrainMind)

def parseTerrain (value : TerrainPoints) : TerrainMind :=
  let changed := setBasePoints mind.terrain (value.filterMap (pointDefinition defaults))
  { terrain := changed.1
    awareness := mind.awareness.map (changed.2.foldl (markAround res rowX rowY)) }

/-- `AwareMind::entityAdded` and `entityUpdated`. -/
def receive (found : Awareness) (mind : TerrainMind) : DomainReport → TerrainMind
  | .entityAdded terrainPoints =>
    if mind.awareness.isSome then mind
    else
      terrainPoints.elim { mind with awareness := some found }
        (parseTerrain defaults res rowX rowY { mind with awareness := some found })
  | .entityUpdated terrain _ =>
    if mind.awareness.isSome then mind
    else
      { terrain.elim mind (parseTerrain defaults res rowX rowY mind) with
        awareness := some found }

/-- The terrain has another base point there. -/
def Changes (terrain : Terrain) (value : TerrainPoints) (place : Int × Int) : Prop :=
  ∃ point, (place, point) ∈ value.filterMap (pointDefinition defaults) ∧
    terrain place ≠ some point

/-- The value sets another height at the place than the terrain has. -/
def HeightChanges (terrain : Terrain) (value : TerrainPoints) (place : Int × Int) : Prop :=
  ∃ point, (place, point) ∈ value.filterMap (pointDefinition defaults) ∧
    (terrain place).map BasePoint.height ≠ some point.height

/-- The tile is marked dirty. -/
def Marked (tile : Tile) : Prop :=
  ∃ awareness, mind.awareness = some awareness ∧ awareness.Dirty tile

/-- Built tiles beside new heights become dirty. -/
def Reaches (built : Tile → Prop) (found : Awareness) (mind : TerrainMind)
    (report : DomainReport) : Prop :=
  ∀ place, HeightChanges defaults mind.terrain report.points place →
    ∀ tile : Tile, rowX.Beside res place.1 tile.1 → rowY.Beside res place.2 tile.2 → built tile →
      (receive defaults res rowX rowY found mind report).Marked tile

/-- The first report comes without an awareness, near the tile. -/
def Noticed (report : DomainReport) (tile : Tile) : Prop :=
  mind.awareness = none ∧ ∃ points, report = .entityAdded (some points) ∧
    ∃ place, Changes defaults mind.terrain points place ∧
      rowX.Meets (place.1 - res) (place.1 + res) tile.1 ∧
      rowY.Meets (place.2 - res) (place.2 + res) tile.2

section

variable (points : List ((Int × Int) × BasePoint))

theorem mem_setBasePoints (terrain : Terrain)
    (place : Int × Int) :
    (∃ point, (place, point) ∈ (setBasePoints terrain points).2) ↔
      ∃ point, (place, point) ∈ points ∧ terrain place ≠ some point := by
  induction points generalizing terrain with
  | nil => simp [setBasePoints]
  | cons first rest ih =>
    unfold setBasePoints
    split
    next same =>
      rw [ih]
      refine exists_congr fun point => ?_
      rw [List.mem_cons, or_and_right, or_iff_right]
      rintro ⟨rfl, different⟩
      exact different same
    next different =>
      by_cases here : place = first.1
      · subst here
        exact iff_of_true ⟨first.2, List.mem_cons_self⟩ ⟨first.2, List.mem_cons_self, different⟩
      · have others (point : BasePoint) : (place, point) ≠ first :=
          fun same => here (congrArg Prod.fst same)
        simp only [List.mem_cons, others, false_or, ih, update_of_ne here]

theorem foldl_markAround_dirty (awareness : Awareness)
    (tile : Tile) :
    (points.foldl (markAround res rowX rowY) awareness).Dirty tile ↔ awareness.Dirty tile ∨
      ∃ place, (∃ point, (place, point) ∈ points) ∧
        rowX.Meets (place.1 - res) (place.1 + res) tile.1 ∧
        rowY.Meets (place.2 - res) (place.2 + res) tile.2 := by
  induction points generalizing awareness with
  | nil => simp
  | cons first rest ih =>
    rw [List.foldl_cons, ih, markAround, Awareness.markTilesAsDirty_dirty, mem_tilesBetween,
      TileRow.affected_iff, TileRow.affected_iff, or_assoc]
    refine or_congr_right ⟨?_, ?_⟩
    · rintro (near | ⟨place, ⟨point, isRest⟩, near⟩)
      · exact ⟨first.1, ⟨first.2, List.mem_cons_self⟩, near⟩
      · exact ⟨place, ⟨point, List.mem_cons_of_mem _ isRest⟩, near⟩
    · rintro ⟨place, ⟨point, isPoint⟩, near⟩
      rcases List.mem_cons.mp isPoint with rfl | isRest
      · exact .inl near
      · exact .inr ⟨place, ⟨point, isRest⟩, near⟩

end

/-- Just the tiles that notice it are marked. -/
theorem receive_marked_iff (found : Awareness) (mind : TerrainMind) (report : DomainReport)
    (tile : Tile) :
    (receive defaults res rowX rowY found mind report).Marked tile ↔
      (mind.awareness.getD found).Dirty tile ∨ Noticed defaults res rowX rowY mind report tile := by
  unfold Noticed
  cases hasAwareness : mind.awareness with
  | some awareness =>
    have unchanged : receive defaults res rowX rowY found mind report = mind := by
      cases report <;> simp [receive, hasAwareness]
    simp [unchanged, Marked, hasAwareness]
  | none =>
    match report with
    | .entityUpdated terrain terrainPoints => simp [receive, hasAwareness, Marked]
    | .entityAdded none => simp [receive, hasAwareness, Marked]
    | .entityAdded (some points) =>
      simp [receive, hasAwareness, Marked, parseTerrain, foldl_markAround_dirty, mem_setBasePoints,
        Changes]

/-- After a report of terrain a tile that must be built again is dirty, just if it was dirty before
or the positions of the report reach it. -/
theorem receive_reaches_iff (built : Tile → Prop) (found : Awareness) (mind : TerrainMind)
    (report : DomainReport) :
    Reaches defaults res rowX rowY built found mind report ↔
      ∀ place, HeightChanges defaults mind.terrain report.points place →
        ∀ tile : Tile, rowX.Beside res place.1 tile.1 → rowY.Beside res place.2 tile.2 →
          built tile → (mind.awareness.getD found).Dirty tile ∨
            Noticed defaults res rowX rowY mind report tile := by
  simp only [Reaches, receive_marked_iff]

def smallRow : TileRow where
  bmin := 0
  bmax := 1000
  tilesize := 10
  ordered := by decide +kernel
  positive := by decide +kernel

/-- A base point is taken for a position. -/
theorem segments_not_reached :
    ¬ Reaches ⟨5 / 4, 1 / 4⟩ 64 smallRow smallRow (fun _ => True)
      { Awareness.initial with awareTiles := fun _ => some 1 } ⟨fun _ => none, none⟩
      (.entityAdded (some [some [some 2, some 2, some 5]])) := by
  intro reaches
  have marked := reaches (2, 2) ⟨⟨5, 5 / 4, 1 / 4⟩, by decide +kernel, by decide +kernel⟩ (18, 18)
    ⟨2, .inr rfl, by decide +kernel, by decide +kernel⟩
    ⟨2, .inr rfl, by decide +kernel, by decide +kernel⟩ trivial
  rcases (receive_marked_iff ..).mp marked with
    dirty | ⟨-, _, ⟨⟩, place, ⟨point, isPoint, -⟩, near, -⟩
  · simp [Awareness.Dirty, Awareness.initial] at dirty
  · have described : [some [some 2, some 2, some 5]].filterMap (pointDefinition ⟨5 / 4, 1 / 4⟩) =
      [((2, 2), ⟨5, 5 / 4, 1 / 4⟩)] := by decide +kernel
    rw [described, List.mem_singleton] at isPoint
    obtain ⟨rfl, -⟩ := Prod.mk.inj isPoint
    norm_num [TileRow.Meets, TileRow.corner, smallRow] at near

end TerrainMind

end Cyphesis.Ai
