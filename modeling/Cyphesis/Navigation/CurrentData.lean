import Cyphesis.Navigation.NavigationData
import Cyphesis.Navigation.TileCounts

/-!
# When the navigation data are current

A tile that is cached and not dirty has the layers of the entities that are registered.
-/

namespace Cyphesis.Navigation

open Cyphesis.Foundation List
open Function

namespace Awareness

variable {awareness : Awareness} {tile other : Tile} {area : AwarenessArea}

/-- The tile is marked to be built again, aware or not. -/
def Dirty (awareness : Awareness) (tile : Tile) : Prop :=
  tile ∈ awareness.dirtyAwareTiles ∨ tile ∈ awareness.dirtyUnwareTiles

theorem insertDirty_dirtyAwareTiles {front : Bool} :
    other ∈ (awareness.insertDirty tile front).dirtyAwareTiles ↔
      other = tile ∨ other ∈ awareness.dirtyAwareTiles := by
  unfold insertDirty
  by_cases isDirty : tile ∈ awareness.dirtyAwareTiles
  · rw [if_pos isDirty]
    constructor
    · exact Or.inr
    · rintro (rfl | isMember)
      · exact isDirty
      · exact isMember
  · rw [if_neg isDirty]
    exact mem_cons

theorem coverTile_dirty {current : Awareness × List Tile} :
    (coverTile area current tile).1.Dirty other ↔
      current.1.Dirty other ∨ other = tile ∧ area.cached tile = false := by
  unfold Dirty
  have aware : other ∈ (coverTile area current tile).1.dirtyAwareTiles ↔
      other ∈ current.1.dirtyAwareTiles ∨
        other = tile ∧ current.1.needsBuilding area tile = true := by
    unfold coverTile
    by_cases needs : current.1.needsBuilding area tile = true
    · by_cases isOld : tile ∈ current.2 <;>
        simp [needs, isOld, insertDirty_dirtyAwareTiles, or_comm]
    · by_cases isOld : tile ∈ current.2 <;> simp [needs, isOld]
  have unware : other ∈ (coverTile area current tile).1.dirtyUnwareTiles ↔
      other ∈ current.1.dirtyUnwareTiles ∧ other ≠ tile := by
    unfold coverTile
    by_cases needs : current.1.needsBuilding area tile = true
    · by_cases isOld : tile ∈ current.2 <;>
        simp [needs, isOld, insertDirty_dirtyUnwareTiles]
    · by_cases isOld : tile ∈ current.2 <;> simp [needs, isOld]
  rw [aware, unware, needsBuilding]
  by_cases same : other = tile
  · subst same
    simp [or_assoc]
  · simp [same]

theorem coverTiles_dirty (tiles : List Tile) (current : Awareness × List Tile) :
    (tiles.foldl (coverTile area) current).1.Dirty other ↔
      current.1.Dirty other ∨ other ∈ tiles ∧ area.cached other = false := by
  induction tiles generalizing current with
  | nil => simp
  | cons tile rest ih =>
    rw [foldl_cons, ih, coverTile_dirty, or_assoc, mem_cons]
    apply or_congr_right
    constructor
    · rintro (⟨rfl, isNew⟩ | ⟨isRest, isNew⟩)
      · exact ⟨Or.inl rfl, isNew⟩
      · exact ⟨Or.inr isRest, isNew⟩
    · rintro ⟨rfl | isRest, isNew⟩
      · exact Or.inl ⟨rfl, isNew⟩
      · exact Or.inr ⟨isRest, isNew⟩

theorem returnTile_dirty : (awareness.returnTile tile).Dirty other ↔ awareness.Dirty other := by
  unfold returnTile
  cases awareness.awareTiles tile with
  | none => exact Iff.rfl
  | some count =>
    dsimp only
    split_ifs
    · unfold releaseTile Dirty
      by_cases isDirty : tile ∈ awareness.dirtyAwareTiles
      · by_cases same : other = tile
        · subst same
          simp [isDirty]
        · simp [isDirty, same]
      · simp [isDirty]
    · exact Iff.rfl

theorem returnAwareTiles_dirty (tiles : List Tile) (awareness : Awareness) :
    (awareness.returnAwareTiles tiles).Dirty other ↔ awareness.Dirty other := by
  unfold returnAwareTiles
  induction tiles generalizing awareness with
  | nil => exact Iff.rfl
  | cons tile rest ih =>
    rw [foldl_cons, ih, returnTile_dirty]

theorem announce_dirty {before : Awareness} :
    (announce before awareness).Dirty other ↔ awareness.Dirty other := by
  unfold announce
  split_ifs
  · exact Iff.rfl
  · exact Iff.rfl

theorem setAwarenessArea_dirty {areaId : String} :
    (awareness.setAwarenessArea areaId area).Dirty other ↔
      awareness.Dirty other ∨ other ∈ area.tiles ∧ area.cached other = false := by
  unfold setAwarenessArea
  rw [announce_dirty]
  exact (returnAwareTiles_dirty _ _).trans (coverTiles_dirty area.tiles _)

theorem removeAwarenessArea_dirty {areaId : String} :
    (awareness.removeAwarenessArea areaId).Dirty other ↔ awareness.Dirty other := by
  unfold removeAwarenessArea
  cases awareness.awareAreas areaId with
  | none => exact Iff.rfl
  | some tiles => exact returnAwareTiles_dirty tiles awareness

theorem markTile_dirty :
    (awareness.markTile tile).Dirty other ↔ awareness.Dirty other ∨ other = tile := by
  unfold markTile Dirty
  split_ifs
  · rw [insertDirty_dirtyAwareTiles, insertDirty_dirtyUnwareTiles]
    tauto
  · simp only [mem_insert_iff]
    tauto

theorem markTilesAsDirty_dirty {minX maxX minY maxY : Int} :
    (awareness.markTilesAsDirty minX maxX minY maxY).Dirty other ↔
      awareness.Dirty other ∨ other ∈ tilesBetween minX maxX minY maxY := by
  unfold markTilesAsDirty
  rw [announce_dirty]
  generalize tilesBetween minX maxX minY maxY = tiles
  induction tiles generalizing awareness with
  | nil => simp
  | cons tile rest ih =>
    rw [foldl_cons, ih, markTile_dirty, mem_cons, or_assoc]

end Awareness

namespace NavigationData

variable {Value Area Layer : Type} {geometry : Geometry Value Area Layer}
  {data after : NavigationData Value Area Layer} {areas : AwareAreas}

/-- `findAffectedTiles` names every tile that `findEntityAreas` would count the area for. It does
not when a low edge of the area lies on the boundary of a tile. -/
def Whole (geometry : Geometry Value Area Layer) (area : Area) : Prop :=
  ∀ tile, geometry.overlaps tile area = true →
    tile ∈ tilesBetween (geometry.affectedTiles area).1 (geometry.affectedTiles area).2.1
      (geometry.affectedTiles area).2.2.1 (geometry.affectedTiles area).2.2.2

/-- All registered areas are whole. -/
def AllWhole (geometry : Geometry Value Area Layer) (data : NavigationData Value Area Layer) :
    Prop :=
  ∀ entity area, data.entityAreas entity = some area → Whole geometry area

/-- The entry that `processEntityUpdate` builds an area from. -/
def seenEntry (geometry : Geometry Value Area Layer) (entry : EntityEntry Value)
    (entity : MemEntity Value) (ent : Option UpdateAttributes) : EntityEntry Value :=
  let (read, _, hasNewBbox) :=
    entry.readProperties geometry.scaledBbox entity ent entity.lastUpdated
  let isIgnored := if read.isIgnored ∧ hasNewBbox then read.scaledBbox.isNone else read.isIgnored
  { read with isIgnored := isIgnored }

/-- The entry that `addEntity` goes on with. -/
def countedEntry (data : NavigationData Value Area Layer) (observer : Nat)
    (entity : MemEntity Value)
    (isDynamic : Bool) : EntityEntry Value :=
  let found := match data.observedEntities entity.entityId with
    | none => newEntry entity isDynamic
    | some entry => { entry with numberOfObservers := entry.numberOfObservers + 1 }
  if entity.entityId = observer then { found with isActorOwned := true } else found

/-- The area that an event gives to an entity, if any. -/
def givenArea (geometry : Geometry Value Area Layer) (data : NavigationData Value Area Layer) :
    NavigationEvent Value → Option Area
  | .addEntity observer entity isDynamic =>
    geometry.buildEntityAreas
      (seenEntry geometry (countedEntry data observer entity isDynamic) entity none)
  | .updateEntity observer entity ent =>
    match data.observedEntities entity.entityId with
    | some entry => geometry.buildEntityAreas (seenEntry geometry entry entity (some ent))
    | none =>
      geometry.buildEntityAreas
        (seenEntry geometry (countedEntry data observer entity true) entity none)
  | _ => none

/-- Just what is registered anew is dirty, and it is whole. -/
structure Marked (geometry : Geometry Value Area Layer)
    (before after : NavigationData Value Area Layer) : Prop where
  tileCache : after.tileCache = before.tileCache
  dirty : ∀ tile, before.awareness.Dirty tile → after.awareness.Dirty tile
  registered : ∀ tile, ¬ after.awareness.Dirty tile →
    after.findEntityAreas geometry tile = before.findEntityAreas geometry tile
  kept : ∀ areas : AwareAreas, Observed.Kept (before.awareness, areas) →
    Observed.Kept (after.awareness, areas)
  whole : AllWhole geometry after

theorem Marked.refl (whole : AllWhole geometry data) : Marked geometry data data :=
  ⟨rfl, fun _ => id, fun _ _ => rfl, fun _ => id, whole⟩

theorem Marked.setEntry (marked : Marked geometry data after) (entry : EntityEntry Value) :
    Marked geometry data (after.setEntry entry) :=
  ⟨marked.tileCache, marked.dirty, marked.registered, marked.kept, marked.whole⟩

theorem Marked.ite {first second : NavigationData Value Area Layer} {condition : Prop}
    [Decidable condition] (isFirst : Marked geometry data first)
    (isSecond : Marked geometry data second) :
    Marked geometry data (if condition then first else second) := by
  split_ifs
  · exact isFirst
  · exact isSecond

theorem markTilesAsDirty_kept (area : Area) (areas : AwareAreas)
    (kept : Observed.Kept (data.awareness, areas)) :
    Observed.Kept ((data.markTilesAsDirty geometry area).awareness, areas) :=
  @Observed.Kept.step _ (.markTilesAsDirty _ _ _ _) kept trivial

variable {area : Area} {tile : Tile}

theorem dirty_of_overlaps (whole : Whole geometry area)
    (overlaps : geometry.overlaps tile area = true) :
    (data.markTilesAsDirty geometry area).awareness.Dirty tile :=
  Awareness.markTilesAsDirty_dirty.mpr (Or.inr (whole tile overlaps))

theorem dirty_of_dirty (isDirty : data.awareness.Dirty tile) :
    (data.markTilesAsDirty geometry area).awareness.Dirty tile :=
  Awareness.markTilesAsDirty_dirty.mpr (Or.inl isDirty)

theorem findEntityAreas_update {entity : Nat} {area : Option Area} {tile : Tile}
    (same : area.filter (geometry.overlaps tile) =
      (data.entityAreas entity).filter (geometry.overlaps tile)) :
    ({ data with entityAreas := update data.entityAreas entity area } :
      NavigationData Value Area Layer).findEntityAreas geometry tile =
      data.findEntityAreas geometry tile := by
  funext other
  unfold findEntityAreas
  dsimp only
  by_cases isEntity : other = entity
  · subst isEntity
    rw [update_self, same]
  · rw [update_of_ne isEntity]

theorem filter_of_not_overlaps
    (apart : ¬ geometry.overlaps tile area = true) :
    (some area).filter (geometry.overlaps tile) = none := by
  simpa [Option.filter] using apart

section

variable (data) (whole : AllWhole geometry data)

include whole

theorem AllWhole.update {entity : Nat} {given : Option Area}
    (isWhole : ∀ area, given = some area → Whole geometry area) (awareness : Awareness) :
    AllWhole geometry { data with
      awareness := awareness, entityAreas := Function.update data.entityAreas entity given } := by
  intro other area isArea
  dsimp only at isArea
  by_cases isEntity : other = entity
  · subst isEntity
    rw [update_self] at isArea
    exact isWhole area isArea
  · rw [update_of_ne isEntity] at isArea
    exact whole other area isArea

theorem marked_eraseEntityArea (entity : Nat) :
    Marked geometry data (data.eraseEntityArea geometry entity) := by
  unfold eraseEntityArea
  cases found : data.entityAreas entity with
  | none => exact Marked.refl whole
  | some existing =>
    have nothing : ∀ area, (none : Option Area) = some area → Whole geometry area := nofun
    refine ⟨rfl, fun tile => dirty_of_dirty, fun tile notDirty => ?_,
      markTilesAsDirty_kept existing, AllWhole.update data whole nothing _⟩
    have apart : ¬ geometry.overlaps tile existing = true :=
      notDirty ∘ dirty_of_overlaps (whole entity existing found)
    apply findEntityAreas_update
    change Option.filter _ none = (data.entityAreas entity).filter _
    rw [found, filter_of_not_overlaps apart]
    rfl

theorem marked_setEntityArea (entity : Nat) {area : Area} (isWhole : Whole geometry area) :
    Marked geometry data (data.setEntityArea geometry entity area) := by
  unfold setEntityArea
  cases found : data.entityAreas entity with
  | none =>
    refine ⟨rfl, fun tile => dirty_of_dirty, fun tile notDirty => ?_, markTilesAsDirty_kept area,
      AllWhole.update data whole (fun _ isArea => Option.some.inj isArea ▸ isWhole) _⟩
    have apart : ¬ geometry.overlaps tile area = true := notDirty ∘ dirty_of_overlaps isWhole
    apply findEntityAreas_update
    change Option.filter _ (some area) = (data.entityAreas entity).filter _
    rw [found, filter_of_not_overlaps apart]
    rfl
  | some existing =>
    dsimp only
    split_ifs
    · refine ⟨rfl, fun tile isDirty => dirty_of_dirty (dirty_of_dirty isDirty),
        fun tile notDirty => ?_,
        fun areas kept => markTilesAsDirty_kept existing areas
          (markTilesAsDirty_kept area areas kept),
        AllWhole.update data whole (fun _ isArea => Option.some.inj isArea ▸ isWhole) _⟩
      have apart : ¬ geometry.overlaps tile area = true :=
        notDirty ∘ dirty_of_dirty ∘ dirty_of_overlaps isWhole
      have apartBefore : ¬ geometry.overlaps tile existing = true :=
        notDirty ∘ dirty_of_overlaps (whole entity existing found)
      apply findEntityAreas_update
      change Option.filter _ (some area) = (data.entityAreas entity).filter _
      rw [found, filter_of_not_overlaps apart, filter_of_not_overlaps apartBefore]
    · exact Marked.refl whole

theorem marked_processEntityUpdate
    (entry : EntityEntry Value) (entity : MemEntity Value) (ent : Option UpdateAttributes)
    (given : ∀ area, geometry.buildEntityAreas (seenEntry geometry entry entity ent) = some area →
      Whole geometry area) :
    Marked geometry data
      (data.processEntityUpdate geometry entry entity ent entity.lastUpdated) := by
  unfold seenEntry at given
  unfold processEntityUpdate
  generalize entry.readProperties geometry.scaledBbox entity ent entity.lastUpdated = result
    at given ⊢
  obtain ⟨read, hasNewPosition, hasNewBbox⟩ := result
  refine Marked.ite ?_ (Marked.ite ?_ (Marked.ite ?_ (Marked.ite (Marked.ite ?_ ?_) ?_)))
  · exact (Marked.refl whole).setEntry _
  · exact (Marked.refl whole).setEntry _
  · exact (marked_eraseEntityArea data whole _).setEntry _
  · exact (marked_eraseEntityArea data whole _).setEntry _
  · split
    · exact (Marked.refl whole).setEntry _
    next area isArea => exact (marked_setEntityArea data whole _ (given area isArea)).setEntry _
  · exact (Marked.refl whole).setEntry _

theorem marked_addEntity (observer : Nat)
    (entity : MemEntity Value) (isDynamic : Bool)
    (given : ∀ area, geometry.buildEntityAreas
      (seenEntry geometry (data.countedEntry observer entity isDynamic) entity none) = some area →
      Whole geometry area) :
    Marked geometry data (data.addEntity geometry observer entity isDynamic) := by
  have sameEntry : data.countedEntry observer entity isDynamic =
      if (decide (entity.entityId = observer)) = true then
        { (match data.observedEntities entity.entityId with
            | none => newEntry entity isDynamic
            | some entry => { entry with numberOfObservers := entry.numberOfObservers + 1 }) with
          isActorOwned := true }
      else match data.observedEntities entity.entityId with
        | none => newEntry entity isDynamic
        | some entry => { entry with numberOfObservers := entry.numberOfObservers + 1 } := by
    simp only [countedEntry, decide_eq_true_eq]
  rw [sameEntry] at given
  unfold addEntity
  refine Marked.ite ?_ ?_
  · exact marked_processEntityUpdate data whole _ entity none given
  · exact (Marked.refl whole).setEntry _

theorem marked_removeEntity (observer entity : Nat) :
    Marked geometry data (data.removeEntity geometry observer entity) := by
  unfold removeEntity
  cases data.observedEntities entity with
  | none => exact Marked.refl whole
  | some entry =>
    refine Marked.ite ?_ ?_
    · have marked : Marked geometry data _ := marked_eraseEntityArea data whole entity
      exact ⟨marked.tileCache, marked.dirty, marked.registered, marked.kept, marked.whole⟩
    · exact (Marked.refl whole).setEntry _

theorem marked_updateEntity
    (domainEntityId observer : Nat) (entity : MemEntity Value) (ent : UpdateAttributes)
    (given : ∀ area, data.givenArea geometry (.updateEntity observer entity ent) = some area →
      Whole geometry area) :
    Marked geometry data (data.updateEntity geometry domainEntityId observer entity ent) := by
  unfold givenArea at given
  unfold updateEntity
  cases found : data.observedEntities entity.entityId with
  | none =>
    simp only [found] at given
    refine Marked.ite ?_ ?_
    · exact marked_addEntity data whole observer entity true given
    · exact Marked.refl whole
  | some entry =>
    simp only [found] at given
    refine Marked.ite ?_ ?_
    · exact marked_removeEntity data whole observer entity.entityId
    · exact marked_processEntityUpdate data whole entry entity (some ent) given

end

end NavigationData

namespace AwareAreas

variable {areas : AwareAreas} {areaId : String} {tile : Tile}

/-- The tile is inside one of the areas. -/
def Covers (areas : AwareAreas) (tile : Tile) : Prop :=
  ∃ area ∈ areas, tile ∈ area.2

instance (areas : AwareAreas) (tile : Tile) : Decidable (areas.Covers tile) :=
  inferInstanceAs (Decidable (∃ area ∈ areas, _))

theorem count_ne_zero : areas.count tile ≠ 0 ↔ areas.Covers tile := by
  unfold count Covers
  rw [← Nat.pos_iff_ne_zero, countP_pos_iff]
  simp

theorem covers_of_filter (covers : Covers (areas.filter (·.1 ≠ areaId)) tile) :
    areas.Covers tile := by
  obtain ⟨area, isArea, isInside⟩ := covers
  exact ⟨area, mem_of_mem_filter isArea, isInside⟩

theorem covers_set {tiles : List Tile}
    (covers : Covers ((areaId, tiles) :: areas.filter (·.1 ≠ areaId)) tile) :
    tile ∈ tiles ∨ areas.Covers tile := by
  obtain ⟨area, isArea, isInside⟩ := covers
  rcases List.mem_cons.mp isArea with rfl | isOther
  · exact Or.inl isInside
  · exact Or.inr (covers_of_filter ⟨area, isOther, isInside⟩)

end AwareAreas

/-- An awareness, and the areas that are set. -/
abbrev Navigated (Value Area Layer : Type) := NavigationData Value Area Layer × AwareAreas

namespace Navigated

variable {Value Area Layer : Type} {geometry : Geometry Value Area Layer} {domainEntityId : Nat}
  {state : Navigated Value Area Layer}

/-- A step of the awareness beside the areas that are meant to be set. -/
def step (geometry : Geometry Value Area Layer) (domainEntityId : Nat)
    (state : Navigated Value Area Layer) (event : NavigationEvent Value) :
    Navigated Value Area Layer :=
  (state.1.step geometry domainEntityId event,
    match event with
    | .setAwarenessArea areaId area => state.2.step (.setAwarenessArea areaId area)
    | .removeAwarenessArea areaId => state.2.step (.removeAwarenessArea areaId)
    | _ => state.2)

def initial (desiredTilesAmount : Nat) : Navigated Value Area Layer :=
  (.initial desiredTilesAmount, [])

/-- Layers that the registered entities give. -/
def layers (geometry : Geometry Value Area Layer) (data : NavigationData Value Area Layer)
    (tile : Tile) : List Layer :=
  geometry.rasterizeTileLayers tile (data.findEntityAreas geometry tile)

/-- Clean tiles have the entities' layers. -/
def Current (geometry : Geometry Value Area Layer) (state : Navigated Value Area Layer) : Prop :=
  ∀ tile, state.2.Covers tile → tile ∉ state.1.awareness.dirtyAwareTiles →
    ∀ index, state.1.tileCache tile index = (layers geometry state.1 tile)[index]?

/-- Data inside areas are kept. -/
def PruningKeeps (state : Navigated Value Area Layer) : NavigationEvent Value → Prop
  | .pruneTiles => ∀ tile, state.2.Covers tile →
      state.1.pruneTiles.tileCache tile = state.1.tileCache tile
  | _ => True

/-- Areas are used while set, what entities are given is whole, tiles that are built again get no
fewer layers, and what is pruned is outside. -/
def Harmless (geometry : Geometry Value Area Layer) (state : Navigated Value Area Layer) :
    NavigationEvent Value → Prop
  | .setAwarenessArea areaId area =>
    Observed.Fitting (state.1.awareness, state.2) (.setAwarenessArea areaId area)
  | .removeAwarenessArea areaId =>
    Observed.Fitting (state.1.awareness, state.2) (.removeAwarenessArea areaId)
  | .rebuildDirtyTile => ∀ tile, state.1.awareness.dirtyAwareOrderedTiles.head? = some tile →
      ∀ index, (layers geometry state.1 tile).length ≤ index → state.1.tileCache tile index = none
  | .pruneTiles => ∀ tile, state.1.prunedTile = some tile → ¬ state.2.Covers tile
  | event => ∀ area, state.1.givenArea geometry event = some area →
    NavigationData.Whole geometry area

/-- What harmless events keep. -/
structure Settled (geometry : Geometry Value Area Layer) (state : Navigated Value Area Layer) :
    Prop where
  kept : Observed.Kept (state.1.awareness, state.2)
  whole : NavigationData.AllWhole geometry state.1
  built : ∀ tile, ¬ state.1.awareness.Dirty tile → (state.1.tileCache tile 0).isSome →
    ∀ index, state.1.tileCache tile index = (layers geometry state.1 tile)[index]?
  cached : ∀ tile, state.2.Covers tile → ¬ state.1.awareness.Dirty tile →
    (state.1.tileCache tile 0).isSome

theorem Settled.initial (desiredTilesAmount : Nat) :
    Settled geometry (initial desiredTilesAmount) where
  kept := Observed.kept_initial
  whole _ _ isArea := nomatch isArea
  built tile _ isCached := by cases isCached
  cached tile covers := by
    obtain ⟨area, isArea, -⟩ := covers
    cases isArea

theorem Settled.current (settled : Settled geometry state) : Current geometry state := by
  intro tile covers notAware
  have positive := AwareAreas.count_ne_zero.mpr covers
  have isAware := settled.kept.tallied.counted tile positive
  have notDirty : ¬ state.1.awareness.Dirty tile := by
    rintro (isAwareDirty | isUnware)
    · exact notAware isAwareDirty
    · rw [settled.kept.tidy.unware tile isUnware] at isAware
      cases isAware
  exact settled.built tile notDirty (settled.cached tile covers notDirty)

theorem Settled.marked {after : NavigationData Value Area Layer} (settled : Settled geometry state)
    (marked : NavigationData.Marked geometry state.1 after) :
    Settled geometry (after, state.2) where
  kept := marked.kept state.2 settled.kept
  whole := marked.whole
  built tile notDirty isCached := by
    have same : layers geometry after tile = layers geometry state.1 tile :=
      congrArg (geometry.rasterizeTileLayers tile) (marked.registered tile notDirty)
    rw [same]
    dsimp only at isCached ⊢
    rw [marked.tileCache] at isCached ⊢
    exact settled.built tile (notDirty ∘ marked.dirty tile) isCached
  cached tile covers notDirty := by
    dsimp only
    rw [marked.tileCache]
    exact settled.cached tile covers (notDirty ∘ marked.dirty tile)

section

variable (settled : Settled geometry state)

include settled

theorem Settled.setAwarenessArea {areaId : String} {area : AwarenessArea}
    (harmless : Harmless geometry state (.setAwarenessArea areaId area)) :
    Settled geometry (state.step geometry domainEntityId (.setAwarenessArea areaId area)) where
  kept := settled.kept.setAwarenessArea (state.1.cachedArea area) harmless.1 harmless.2
  whole := settled.whole
  built tile notDirty isCached :=
    settled.built tile (notDirty ∘ Awareness.setAwarenessArea_dirty.mpr ∘ Or.inl) isCached
  cached tile covers notDirty := by
    have stays := notDirty ∘ Awareness.setAwarenessArea_dirty.mpr
    rcases AwareAreas.covers_set covers with isNew | isOld
    · by_contra missing
      exact stays (Or.inr ⟨isNew, Bool.eq_false_iff.mpr missing⟩)
    · exact settled.cached tile isOld (stays ∘ Or.inl)

theorem Settled.removeAwarenessArea {areaId : String}
    (harmless : Harmless geometry state (.removeAwarenessArea areaId)) :
    Settled geometry (state.step geometry domainEntityId (.removeAwarenessArea areaId)) where
  kept := settled.kept.removeAwarenessArea harmless
  whole := settled.whole
  built tile notDirty isCached :=
    settled.built tile (notDirty ∘ Awareness.removeAwarenessArea_dirty.mpr) isCached
  cached tile covers notDirty :=
    settled.cached tile (AwareAreas.covers_of_filter covers)
      (notDirty ∘ Awareness.removeAwarenessArea_dirty.mpr)

/-- The tile that is built has its new layers. -/
theorem Settled.rebuildDirtyTile
    (harmless : Harmless geometry state .rebuildDirtyTile) :
    Settled geometry (state.step geometry domainEntityId .rebuildDirtyTile) := by
  have kept : Observed.Kept (state.1.awareness.rebuildDirtyTile, state.2) :=
    @Observed.Kept.step _ .rebuildDirtyTile settled.kept trivial
  by_cases nothing : state.1.awareness.dirtyAwareTiles = []
  · have same : state.step geometry domainEntityId .rebuildDirtyTile = state :=
      Prod.ext (if_pos nothing) rfl
    rw [same]
    exact settled
  cases isFirst : state.1.awareness.dirtyAwareOrderedTiles with
  | nil =>
    obtain ⟨tile, isDirty⟩ := exists_mem_of_ne_nil _ nothing
    have isOrdered := (settled.kept.tidy.mirrored tile).mpr isDirty
    rw [isFirst] at isOrdered
    cases isOrdered
  | cons tile rest =>
    have isAware : tile ∈ state.1.awareness.dirtyAwareTiles :=
      (settled.kept.tidy.mirrored tile).mp (isFirst ▸ mem_cons_self)
    have notUnware : tile ∉ state.1.awareness.dirtyUnwareTiles := by
      intro isUnware
      have aware := settled.kept.tidy.dirty_aware tile isAware
      rw [settled.kept.tidy.unware tile isUnware] at aware
      cases aware
    have dirty (other : Tile) : state.1.awareness.rebuildDirtyTile.Dirty other ↔
        state.1.awareness.Dirty other ∧ other ≠ tile := by
      unfold Awareness.rebuildDirtyTile Awareness.Dirty
      rw [if_neg nothing, isFirst]
      by_cases isTile : other = tile
      · subst isTile
        simp [notUnware]
      · simp [isTile]
    have rebuilt : state.1.rebuildDirtyTile geometry =
        { state.1.rebuildTile geometry tile (state.1.findEntityAreas geometry tile) with
          awareness := state.1.awareness.rebuildDirtyTile } := by
      unfold NavigationData.rebuildDirtyTile
      rw [if_neg nothing, isFirst]
    have result : state.step geometry domainEntityId .rebuildDirtyTile = (_, state.2) :=
      Prod.ext rebuilt rfl
    have newLayers (index : Nat) :
        (layers geometry state.1 tile)[index]?.or (state.1.tileCache tile index) =
          (layers geometry state.1 tile)[index]? := by
      by_cases isBeyond : (layers geometry state.1 tile).length ≤ index
      · rw [harmless tile (by rw [isFirst]; rfl) index isBeyond, Option.or_none]
      · rw [getElem?_eq_getElem (Nat.lt_of_not_le isBeyond)]
        rfl
    rw [result]
    refine ⟨kept, settled.whole, fun other notDirty isCached index => ?_,
      fun other covers notDirty => ?_⟩
    · change update state.1.tileCache tile _ other index = (layers geometry state.1 other)[index]?
      by_cases isTile : other = tile
      · subst isTile
        rw [update_self]
        exact newLayers index
      · replace isCached : (update state.1.tileCache tile _ other 0).isSome = true :=
          isCached
        rw [update_of_ne isTile] at isCached ⊢
        exact settled.built other (fun isDirty => notDirty ((dirty other).mpr ⟨isDirty, isTile⟩))
          isCached index
    · change (update state.1.tileCache tile _ other 0).isSome = true
      by_cases isTile : other = tile
      · subst isTile
        rw [update_self]
        have notNil : layers geometry state.1 other ≠ [] := geometry.layers_ne_nil other _
        have first : (layers geometry state.1 other)[0]?.isSome = true := by
          simpa [length_pos_iff] using notNil
        exact (congrArg Option.isSome (newLayers 0)).trans first
      · rw [update_of_ne isTile]
        exact settled.cached other covers
          fun isDirty => notDirty ((dirty other).mpr ⟨isDirty, isTile⟩)

theorem Settled.pruneTiles
    (harmless : Harmless geometry state .pruneTiles) :
    Settled geometry (state.step geometry domainEntityId .pruneTiles) := by
  cases isPruned : state.1.prunedTile with
  | none =>
    have unchanged : state.1.pruneTiles = state.1 := by
      unfold NavigationData.pruneTiles
      rw [isPruned]
    have same : state.step geometry domainEntityId .pruneTiles = state :=
      Prod.ext unchanged rfl
    rw [same]
    exact settled
  | some tile =>
    have pruned : state.1.pruneTiles = { state.1 with
        activeTileList := state.1.activeTileList.dropLast
        tileCache := update state.1.tileCache tile fun _ => none } := by
      unfold NavigationData.pruneTiles
      rw [isPruned]
    have result : state.step geometry domainEntityId .pruneTiles = (_, state.2) :=
      Prod.ext pruned rfl
    rw [result]
    refine ⟨settled.kept, settled.whole, fun other notDirty isCached index => ?_,
      fun other covers notDirty => ?_⟩
    · replace isCached : (update state.1.tileCache tile _ other 0).isSome = true :=
        isCached
      change update state.1.tileCache tile _ other index = _
      by_cases isTile : other = tile
      · subst isTile
        rw [update_self] at isCached
        cases isCached
      · rw [update_of_ne isTile] at isCached ⊢
        exact settled.built other notDirty isCached index
    · have isOther : other ≠ tile := fun isTile => harmless tile isPruned (isTile ▸ covers)
      change (update state.1.tileCache tile _ other 0).isSome = true
      rw [update_of_ne isOther]
      exact settled.cached other covers notDirty

theorem Settled.step {event : NavigationEvent Value}
    (harmless : Harmless geometry state event) :
    Settled geometry (state.step geometry domainEntityId event) := by
  cases event with
  | addEntity observer entity isDynamic =>
    exact settled.marked
      (NavigationData.marked_addEntity state.1 settled.whole observer entity isDynamic harmless)
  | updateEntity observer entity ent =>
    exact settled.marked (NavigationData.marked_updateEntity state.1 settled.whole domainEntityId
      observer entity ent harmless)
  | removeEntity observer entity =>
    exact settled.marked (NavigationData.marked_removeEntity state.1 settled.whole observer entity)
  | setAwarenessArea areaId area => exact settled.setAwarenessArea harmless
  | removeAwarenessArea areaId => exact settled.removeAwarenessArea harmless
  | rebuildDirtyTile => exact settled.rebuildDirtyTile harmless
  | pruneTiles => exact settled.pruneTiles harmless
  | setDesiredTilesAmount amount =>
    exact ⟨settled.kept, settled.whole, settled.built, settled.cached⟩

end

theorem pruningKeeps_of_harmless (event : NavigationEvent Value)
    (harmless : Harmless geometry state event) : PruningKeeps state event := by
  cases event with
  | pruneTiles =>
    intro tile covers
    unfold NavigationData.pruneTiles
    cases isPruned : state.1.prunedTile with
    | none => rfl
    | some pruned =>
      have isOther : tile ≠ pruned := fun same => harmless pruned isPruned (same ▸ covers)
      exact update_of_ne isOther _ _
  | _ => trivial

/-- After events that are all harmless, every clean tile inside an awareness area has the layers of
the areas that are registered, and pruning removes none of these. -/
theorem run_current (geometry : Geometry Value Area Layer) (domainEntityId desiredTilesAmount : Nat)
    (events : List (NavigationEvent Value))
    (harmless : Admissible (step geometry domainEntityId) (Harmless geometry)
      (initial desiredTilesAmount) events) :
    (∀ count, Current geometry
      (run (step geometry domainEntityId) (initial desiredTilesAmount) (events.take count))) ∧
    Admissible (step geometry domainEntityId) PruningKeeps (initial desiredTilesAmount)
      events := by
  refine ⟨fun count => ?_, harmless.imp fun _ => pruningKeeps_of_harmless⟩
  rw [← take_append_drop count events, admissible_append] at harmless
  exact (run_invariant (Settled geometry) (fun _ _ settled => settled.step)
    (Settled.initial desiredTilesAmount) harmless.1).current

/-- Tiles in a row, one with two layers at first. -/
def bridge : Geometry Int Int Nat :=
  { isZero := fun velocity => velocity == 0
    scaledBbox := fun box factor => some (box * factor)
    buildEntityAreas := fun entry => entry.pos.data
    isLargeEnoughChange := fun existing area => existing != area
    affectedTiles := fun area => (area, area, 0, 0)
    overlaps := fun tile area => tile == (area, 0)
    rasterizeTileLayers := fun _ areas => if (areas 1).isSome then [1, 2] else [0]
    layers_ne_nil := by
      intro tile areas
      split_ifs
      · exact cons_ne_nil _ _
      · exact cons_ne_nil _ _ }

def tileRow (tileMinX tileMaxX : Int) : AwarenessArea :=
  { tileMinX := tileMinX, tileMaxX := tileMaxX, tileMinZ := 0, tileMaxZ := 0,
    meets := fun _ => true, focused := fun _ => false, cached := fun _ => false }

/-- Entity 1 on the tile at zero. -/
def bridgeEntity : MemEntity Int :=
  { entityId := 1, parent := some 9, lastUpdated := 1, position := some (some 0), velocity := none,
    orientation := none, angular := none, bbox := some (some 1), scale := none, solid := none }

def crossing : List (NavigationEvent Int) :=
  [.setAwarenessArea "3" (tileRow 0 1), .addEntity 3 bridgeEntity false, .rebuildDirtyTile,
    .rebuildDirtyTile, .setAwarenessArea "3" (tileRow 1 1), .pruneTiles]

theorem whole_bridge (area : Int) : NavigationData.Whole bridge area := by
  intro tile overlaps
  have isTile : tile = (area, 0) := eq_of_beq overlaps
  simp [bridge, tilesBetween, isTile]

theorem run_current_crossing : Current bridge (run (step bridge 9) (initial 1) (crossing.take 6)) :=
  (run_current bridge 9 1 crossing (by
    refine ⟨?_, fun area _ => whole_bridge area, ?_, ?_, ?_, ?_, trivial⟩
    · change Observed.Fitting _ (.setAwarenessArea "3" (tileRow 0 1))
      decide +kernel
    · intro tile isFirst index _
      rfl
    · intro tile isFirst index _
      have isTile : _ = some ((1, 0) : Tile) := isFirst.symm.trans (by decide +kernel)
      cases isTile
      rfl
    · change Observed.Fitting _ (.setAwarenessArea "3" (tileRow 1 1))
      decide +kernel
    · intro tile isPruned
      have isTile : _ = some ((0, 0) : Tile) := isPruned.symm.trans (by decide +kernel)
      cases isTile
      decide +kernel)).1 6

/-- An old layer, and a pruned tile. -/
theorem run_not_current :
    ¬ Current bridge (run (step bridge 9) (initial 1)
        [.setAwarenessArea "3" (tileRow 0 0), .addEntity 3 bridgeEntity false, .rebuildDirtyTile,
          .removeEntity 3 1, .rebuildDirtyTile]) ∧
      ¬ Current bridge (run (step bridge 9) (initial 1)
        [.setAwarenessArea "3" (tileRow 0 0), .rebuildDirtyTile,
          .setAwarenessArea "4" (tileRow 1 1), .setAwarenessArea "4" (tileRow 2 2),
          .pruneTiles]) := by
  constructor
  · intro current
    have stale := current (0, 0) (by decide +kernel) (by decide +kernel) 1
    revert stale
    decide +kernel
  · intro current
    have missing := current (0, 0) (by decide +kernel) (by decide +kernel) 0
    revert missing
    decide +kernel

end Navigated

end Cyphesis.Navigation
