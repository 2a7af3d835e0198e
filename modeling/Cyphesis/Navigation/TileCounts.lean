import Cyphesis.Navigation.Awareness

/-!
# The counts of the tiles

Each operation changes the count of a tile as it changes the areas, as long as the tiles remembered
for an area id are those of an area that is set.
-/

namespace Cyphesis.Navigation

open Cyphesis.Foundation List

namespace Awareness

variable {awareness : Awareness} {tally : Tile → Nat} {tile : Tile}

/-- Dirty tiles, and a sound iterator. -/
structure Tidy (awareness : Awareness) : Prop where
  dirty_nodup : awareness.dirtyAwareTiles.Nodup
  ordered_nodup : awareness.dirtyAwareOrderedTiles.Nodup
  mirrored : ∀ tile, tile ∈ awareness.dirtyAwareOrderedTiles ↔ tile ∈ awareness.dirtyAwareTiles
  dirty_aware : ∀ tile ∈ awareness.dirtyAwareTiles, (awareness.awareTiles tile).isSome
  unware : ∀ tile ∈ awareness.dirtyUnwareTiles, awareness.awareTiles tile = none
  sound : awareness.faulted = false

end Awareness

/-- Counts and dirty tiles fit the areas. -/
structure Tallied (awareness : Awareness) (areas : AwareAreas) : Prop extends
    Awareness.Tidy awareness where
  counted : ∀ tile, areas.count tile ≠ 0 → awareness.awareTiles tile = some (areas.count tile)
  absent : ∀ tile, areas.count tile = 0 → awareness.awareTiles tile = none

namespace Awareness

variable {awareness : Awareness} {tally : Tile → Nat} {tile : Tile}

/-- There with its count, unless zero. -/
def Counts (awareness : Awareness) (tally : Tile → Nat) : Prop :=
  ∀ tile, awareness.awareTiles tile = if tally tile = 0 then none else some (tally tile)

theorem Counts.congr {other : Tile → Nat} (counts : awareness.Counts tally)
    (same : ∀ tile, tally tile = other tile) : awareness.Counts other := by
  intro tile
  rw [← same tile]
  exact counts tile

theorem Counts.isSome_iff (counts : awareness.Counts tally) (tile : Tile) :
    (awareness.awareTiles tile).isSome ↔ tally tile ≠ 0 := by
  rw [counts tile]
  by_cases zero : tally tile = 0 <;> simp [zero]

variable {count : Nat}

theorem increment_of_lt (room : count + 1 < countLimit) : increment count = count + 1 :=
  if_neg (Nat.ne_of_lt room)

theorem decrement_of_ne (positive : count ≠ 0) : decrement count = count - 1 :=
  if_neg positive

theorem Counts.update (counts : awareness.Counts tally) (positive : count ≠ 0) :
    { awareness with
      awareTiles := Function.update awareness.awareTiles tile (some count) }.Counts
        (Function.update tally tile count) := by
  intro other
  by_cases same : other = tile
  · subst same
    simp [positive]
  · simp only [Function.update_of_ne same]
    exact counts other

theorem Counts.erase (counts : awareness.Counts tally) :
    { awareness with awareTiles := Function.update awareness.awareTiles tile none }.Counts
      (Function.update tally tile 0) := by
  intro other
  by_cases same : other = tile
  · subst same
    simp
  · simp only [Function.update_of_ne same]
    exact counts other

theorem Tidy.insertDirty (tidy : awareness.Tidy) (aware : (awareness.awareTiles tile).isSome)
    (front : Bool) : (awareness.insertDirty tile front).Tidy := by
  unfold Awareness.insertDirty
  split
  · exact tidy
  · rename_i isNew
    have notOrdered : tile ∉ awareness.dirtyAwareOrderedTiles := by
      rwa [tidy.mirrored]
    refine { tidy with
      dirty_nodup := List.nodup_cons.mpr ⟨isNew, tidy.dirty_nodup⟩
      ordered_nodup := ?_, mirrored := ?_, dirty_aware := ?_ }
    · cases front with
      | true => exact List.nodup_cons.mpr ⟨notOrdered, tidy.ordered_nodup⟩
      | false =>
        have appended := tidy.ordered_nodup.concat notOrdered
        rwa [concat_eq_append] at appended
    · intro other
      have mirrored := tidy.mirrored other
      cases front with
      | true => simp [mirrored]
      | false => simp [mirrored, or_comm]
    · intro other isDirty
      rcases List.mem_cons.mp isDirty with rfl | isOld
      · exact aware
      · exact tidy.dirty_aware other isOld

section

variable (awareness) (tile) (front : Bool)

theorem insertDirty_awareTiles :
    (awareness.insertDirty tile front).awareTiles = awareness.awareTiles := by
  unfold insertDirty
  split <;> rfl

theorem insertDirty_awareAreas :
    (awareness.insertDirty tile front).awareAreas = awareness.awareAreas := by
  unfold insertDirty
  split <;> rfl

theorem insertDirty_dirtyUnwareTiles :
    (awareness.insertDirty tile front).dirtyUnwareTiles = awareness.dirtyUnwareTiles := by
  unfold insertDirty
  split <;> rfl

end

/-- Become aware of a tile. -/
def becomeAware (awareness : Awareness) (tile : Tile) (count : Nat) : Awareness :=
  { awareness with
    dirtyUnwareTiles := awareness.dirtyUnwareTiles.filter (· ≠ tile)
    awareTiles := Function.update awareness.awareTiles tile (some count) }

theorem Tidy.becomeAware (tidy : awareness.Tidy) (tile : Tile) (count : Nat) :
    (awareness.becomeAware tile count).Tidy := by
  refine { tidy with dirty_aware := ?_, unware := ?_ }
  · intro other isDirty
    by_cases same : other = tile
    · simp [Awareness.becomeAware, same]
    · simp only [Awareness.becomeAware, Function.update_of_ne same]
      exact tidy.dirty_aware other isDirty
  · intro other isUnware
    obtain ⟨isOld, different⟩ := List.mem_filter.mp isUnware
    have isOther : other ≠ tile := by simpa using different
    simp only [Awareness.becomeAware, Function.update_of_ne isOther]
    exact tidy.unware other isOld

theorem Tidy.releaseTile (tidy : awareness.Tidy) : (awareness.releaseTile tile).Tidy := by
  unfold Awareness.releaseTile
  split
  · constructor
    case dirty_nodup => exact tidy.dirty_nodup.filter _
    case ordered_nodup => exact tidy.ordered_nodup.filter _
    case mirrored =>
      intro other
      simp only [mem_filter, tidy.mirrored other]
    case dirty_aware =>
      intro other isDirty
      obtain ⟨isOld, different⟩ := List.mem_filter.mp isDirty
      have isOther : other ≠ tile := by simpa using different
      simp only [Function.update_of_ne isOther]
      exact tidy.dirty_aware other isOld
    case unware =>
      intro other isUnware
      by_cases same : other = tile
      · simp [same]
      · simp only [Function.update_of_ne same]
        exact tidy.unware other ((List.mem_insert_iff.mp isUnware).resolve_left same)
    case sound => exact tidy.sound
  · rename_i notDirty
    refine { tidy with dirty_aware := ?_, unware := ?_ }
    · intro other isDirty
      have isOther : other ≠ tile := fun same => notDirty (same ▸ isDirty)
      simp only [Function.update_of_ne isOther]
      exact tidy.dirty_aware other isDirty
    · intro other isUnware
      by_cases same : other = tile
      · simp [same]
      · simp only [Function.update_of_ne same]
        exact tidy.unware other isUnware

theorem releaseTile_awareTiles (awareness : Awareness) (tile : Tile) :
    (awareness.releaseTile tile).awareTiles = Function.update awareness.awareTiles tile none := by
  unfold releaseTile
  split <;> rfl

variable {area : AwarenessArea}

variable {rest : List Tile}

theorem coverTile_eq (known : tile ∈ rest → (awareness.awareTiles tile).isSome) :
    (coverTile area (awareness, rest) tile).1 =
      if awareness.needsBuilding area tile then
        (awareness.becomeAware tile (awareness.coveredCount rest tile)).insertDirty tile
          (area.focused tile)
      else awareness.becomeAware tile (awareness.coveredCount rest tile) := by
  by_cases isOld : tile ∈ rest
  · obtain ⟨count, isCount⟩ := Option.isSome_iff_exists.mp (known isOld)
    have same : Function.update awareness.awareTiles tile (some count) = awareness.awareTiles := by
      rw [← isCount, Function.update_eq_self]
    by_cases needs : awareness.needsBuilding area tile
    · by_cases isDirty : tile ∈ awareness.dirtyAwareTiles
      · simp [coverTile, isOld, needs, insertDirty, isDirty, becomeAware, coveredCount, isCount,
          same]
      · simp [coverTile, isOld, needs, insertDirty, isDirty, becomeAware, coveredCount, isCount,
          same]
    · simp [coverTile, isOld, needs, becomeAware, coveredCount, isCount, same]
  · by_cases needs : awareness.needsBuilding area tile
    · by_cases isDirty : tile ∈ awareness.dirtyAwareTiles
      · simp [coverTile, isOld, needs, insertDirty, isDirty, becomeAware, coveredCount]
      · simp [coverTile, isOld, needs, insertDirty, isDirty, becomeAware, coveredCount]
    · simp [coverTile, isOld, needs, becomeAware, coveredCount]

theorem coverTile_rest : (coverTile area (awareness, rest) tile).2 = rest.filter (· ≠ tile) := by
  by_cases isOld : tile ∈ rest
  · simp [coverTile, isOld]
  · simp only [coverTile, if_neg isOld]
    refine (List.filter_eq_self.mpr ?_).symm
    intro other isOther
    have different : other ≠ tile := fun same => isOld (same ▸ isOther)
    simpa using different

theorem Tidy.coverTile (tidy : awareness.Tidy) (counts : awareness.Counts tally)
    (known : ∀ tile ∈ rest, tally tile ≠ 0)
    (room : tile ∉ rest → tally tile + 1 < countLimit) :
    (coverTile area (awareness, rest) tile).1.Tidy ∧
      (Awareness.coverTile area (awareness, rest) tile).1.Counts
        (if tile ∈ rest then tally else Function.update tally tile (tally tile + 1)) := by
  have isKnown : tile ∈ rest → (awareness.awareTiles tile).isSome := fun isOld =>
    (counts.isSome_iff tile).mpr (known tile isOld)
  have aware := tidy.becomeAware tile (awareness.coveredCount rest tile)
  have isAware : ((awareness.becomeAware tile (awareness.coveredCount rest tile)).awareTiles
      tile).isSome := by simp [Awareness.becomeAware]
  have newCount : awareness.coveredCount rest tile =
      if tile ∈ rest then tally tile else tally tile + 1 := by
    have held : (awareness.awareTiles tile).getD 0 = tally tile := by
      rw [counts tile]
      by_cases zero : tally tile = 0 <;> simp [zero]
    rw [coveredCount, held]
    by_cases isOld : tile ∈ rest
    · simp [isOld]
    · simp [isOld, increment_of_lt (room isOld)]
  have positive : awareness.coveredCount rest tile ≠ 0 := by
    rw [newCount]
    split
    · exact known tile ‹_›
    · exact Nat.succ_ne_zero _
  have counted : (awareness.becomeAware tile (awareness.coveredCount rest tile)).Counts
      (if tile ∈ rest then tally else Function.update tally tile (tally tile + 1)) := by
    refine (counts.update positive).congr fun other => ?_
    rw [newCount]
    by_cases isOld : tile ∈ rest
    · simp [isOld]
    · simp [isOld]
  rw [coverTile_eq isKnown]
  split
  · refine ⟨aware.insertDirty isAware _, fun other => ?_⟩
    rw [insertDirty_awareTiles]
    exact counted other
  · exact ⟨aware, counted⟩

theorem coverTile_awareAreas (current : Awareness × List Tile) (tile : Tile) :
    (Awareness.coverTile area current tile).1.awareAreas = current.1.awareAreas := by
  unfold coverTile
  dsimp only
  split <;> split <;> simp only [insertDirty_awareAreas]

/-- All tiles of an area. -/
theorem Tidy.coverTiles {tiles rest : List Tile} (distinct : tiles.Nodup)
    (tidy : awareness.Tidy) (counts : awareness.Counts tally)
    (known : ∀ tile ∈ rest, tally tile ≠ 0)
    (room : ∀ tile ∈ tiles, tile ∉ rest → tally tile + 1 < countLimit) :
    let covered := tiles.foldl (Awareness.coverTile area) (awareness, rest)
    covered.1.Tidy ∧
      covered.1.Counts (fun tile => tally tile + if tile ∈ tiles ∧ tile ∉ rest then 1 else 0) ∧
      covered.1.awareAreas = awareness.awareAreas ∧
      covered.2 = rest.filter (· ∉ tiles) := by
  induction tiles generalizing awareness tally rest with
  | nil => simpa using ⟨tidy, counts⟩
  | cons first others ih =>
    obtain ⟨isNew, distinctOthers⟩ := List.nodup_cons.mp distinct
    obtain ⟨tidyFirst, countsFirst⟩ := @Tidy.coverTile awareness tally first area rest tidy counts
      known (room first mem_cons_self)
    have rests : (Awareness.coverTile area (awareness, rest) first).2 =
        rest.filter (· ≠ first) := coverTile_rest
    have unchanged : ∀ tile, tile ≠ first →
        (if first ∈ rest then tally else Function.update tally first (tally first + 1)) tile =
          tally tile := by
      intro tile different
      split
      · rfl
      · exact Function.update_of_ne different ..
    have memRest : ∀ tile, tile ∈ rest.filter (· ≠ first) ↔ tile ∈ rest ∧ tile ≠ first := by
      intro tile
      simp
    have knownOthers : ∀ tile ∈ rest.filter (· ≠ first),
        (if first ∈ rest then tally else Function.update tally first (tally first + 1)) tile ≠
          0 := by
      intro tile isRest
      obtain ⟨isOld, different⟩ := (memRest tile).mp isRest
      rw [unchanged tile different]
      exact known tile isOld
    have roomOthers : ∀ tile ∈ others, tile ∉ rest.filter (· ≠ first) →
        (if first ∈ rest then tally else Function.update tally first (tally first + 1)) tile + 1 <
          countLimit := by
      intro tile isOther notRest
      have different : tile ≠ first := fun same => isNew (same ▸ isOther)
      rw [unchanged tile different]
      apply room tile (mem_cons_of_mem _ isOther)
      exact fun isOld => notRest ((memRest tile).mpr ⟨isOld, different⟩)
    obtain ⟨tidyAll, countsAll, areasAll, restAll⟩ :=
      ih distinctOthers tidyFirst countsFirst knownOthers roomOthers
    have start : Awareness.coverTile area (awareness, rest) first =
        ((Awareness.coverTile area (awareness, rest) first).1, rest.filter (· ≠ first)) :=
      Prod.ext rfl rests
    rw [foldl_cons, start]
    refine ⟨tidyAll, countsAll.congr fun tile => ?_,
      areasAll.trans (coverTile_awareAreas _ first), ?_⟩
    · by_cases same : tile = first
      · subst same
        by_cases isOld : tile ∈ rest <;> simp [isOld, isNew]
      · rw [unchanged tile same]
        simp [same]
    · rw [restAll, filter_filter]
      congr 1
      funext tile
      by_cases same : tile = first <;> simp [same]

theorem returnTile_awareAreas (awareness : Awareness) (tile : Tile) :
    (awareness.returnTile tile).awareAreas = awareness.awareAreas := by
  unfold returnTile
  split
  · rfl
  · split
    · unfold releaseTile
      split <;> rfl
    · rfl

theorem Tidy.returnTile (tidy : awareness.Tidy) (counts : awareness.Counts tally)
    (known : tally tile ≠ 0) :
    (awareness.returnTile tile).Tidy ∧
      (awareness.returnTile tile).Counts (Function.update tally tile (tally tile - 1)) := by
  have held : awareness.awareTiles tile = some (tally tile) := by
    rw [counts tile, if_neg known]
  simp only [Awareness.returnTile, held, decrement_of_ne known]
  split
  · rename_i zero
    refine ⟨tidy.releaseTile, fun other => ?_⟩
    rw [releaseTile_awareTiles, zero]
    exact counts.erase other
  · rename_i positive
    refine ⟨?_, counts.update positive⟩
    refine { tidy with dirty_aware := ?_, unware := ?_ }
    · intro other isDirty
      by_cases same : other = tile
      · simp [same]
      · simp only [Function.update_of_ne same]
        exact tidy.dirty_aware other isDirty
    · intro other isUnware
      have different : other ≠ tile := by
        rintro rfl
        rw [tidy.unware other isUnware] at held
        contradiction
      simp only [Function.update_of_ne different]
      exact tidy.unware other isUnware

theorem Tidy.returnAwareTiles {tiles : List Tile} (distinct : tiles.Nodup) (tidy : awareness.Tidy)
    (counts : awareness.Counts tally)
    (known : ∀ tile ∈ tiles, tally tile ≠ 0) :
    (awareness.returnAwareTiles tiles).Tidy ∧
      (awareness.returnAwareTiles tiles).Counts
        (fun tile => tally tile - if tile ∈ tiles then 1 else 0) ∧
      (awareness.returnAwareTiles tiles).awareAreas = awareness.awareAreas := by
  induction tiles generalizing awareness tally with
  | nil => simpa [Awareness.returnAwareTiles] using ⟨tidy, counts⟩
  | cons first others ih =>
    obtain ⟨isNew, distinctOthers⟩ := List.nodup_cons.mp distinct
    obtain ⟨tidyFirst, countsFirst⟩ := tidy.returnTile counts (known first mem_cons_self)
    have knownOthers : ∀ tile ∈ others, Function.update tally first (tally first - 1) tile ≠ 0 := by
      intro tile isOther
      have different : tile ≠ first := fun same => isNew (same ▸ isOther)
      rw [Function.update_of_ne different]
      exact known tile (mem_cons_of_mem _ isOther)
    obtain ⟨tidyAll, countsAll, areasAll⟩ := ih distinctOthers tidyFirst countsFirst knownOthers
    refine ⟨tidyAll, countsAll.congr fun tile => ?_,
      areasAll.trans (returnTile_awareAreas awareness first)⟩
    by_cases same : tile = first
    · subst same
      simp [isNew]
    · simp [same]

theorem Tidy.markTile (tidy : awareness.Tidy) (tile : Tile) : (awareness.markTile tile).Tidy := by
  unfold Awareness.markTile
  split
  · rename_i aware
    exact tidy.insertDirty aware false
  · rename_i unaware
    refine { tidy with unware := ?_ }
    intro other isUnware
    rcases List.mem_insert_iff.mp isUnware with rfl | isOld
    · simpa using unaware
    · exact tidy.unware other isOld

theorem markTile_same (awareness : Awareness) (tile : Tile) :
    (awareness.markTile tile).awareTiles = awareness.awareTiles ∧
      (awareness.markTile tile).awareAreas = awareness.awareAreas := by
  unfold markTile
  split
  · exact ⟨insertDirty_awareTiles .., insertDirty_awareAreas ..⟩
  · exact ⟨rfl, rfl⟩

theorem Tidy.markTiles (tidy : awareness.Tidy) (tiles : List Tile) :
    (tiles.foldl Awareness.markTile awareness).Tidy ∧
      (tiles.foldl Awareness.markTile awareness).awareTiles = awareness.awareTiles ∧
      (tiles.foldl Awareness.markTile awareness).awareAreas = awareness.awareAreas := by
  apply run_invariant_of_step (fun after : Awareness => after.Tidy ∧
    after.awareTiles = awareness.awareTiles ∧ after.awareAreas = awareness.awareAreas)
  · rintro middle tile ⟨tidyMiddle, sameTiles, sameAreas⟩
    obtain ⟨tilesNext, areasNext⟩ := middle.markTile_same tile
    exact ⟨tidyMiddle.markTile tile, tilesNext.trans sameTiles, areasNext.trans sameAreas⟩
  · exact ⟨tidy, rfl, rfl⟩

theorem Tidy.announce (before : Awareness) (tidy : awareness.Tidy) :
    (announce before awareness).Tidy ∧
      (Awareness.announce before awareness).awareTiles = awareness.awareTiles ∧
      (Awareness.announce before awareness).awareAreas = awareness.awareAreas := by
  unfold Awareness.announce
  split
  · exact ⟨{ tidy with }, rfl, rfl⟩
  · exact ⟨tidy, rfl, rfl⟩

theorem Tidy.rebuildDirtyTile (tidy : awareness.Tidy) :
    awareness.rebuildDirtyTile.Tidy ∧
      awareness.rebuildDirtyTile.awareTiles = awareness.awareTiles ∧
      awareness.rebuildDirtyTile.awareAreas = awareness.awareAreas := by
  unfold Awareness.rebuildDirtyTile
  split
  · exact ⟨tidy, rfl, rfl⟩
  · rename_i isDirty
    cases ordered : awareness.dirtyAwareOrderedTiles with
    | nil =>
      -- the list holds what the set holds
      refine absurd (List.eq_nil_iff_forall_not_mem.mpr fun tile isTile => ?_) isDirty
      have listed := (tidy.mirrored tile).mpr isTile
      simp [ordered] at listed
    | cons tile rest =>
      have distinct := tidy.ordered_nodup
      rw [ordered] at distinct
      obtain ⟨notRest, distinctRest⟩ := List.nodup_cons.mp distinct
      refine ⟨{ tidy with
        dirty_nodup := tidy.dirty_nodup.filter _
        ordered_nodup := distinctRest
        mirrored := ?_
        dirty_aware := ?_ }, rfl, rfl⟩
      · intro other
        have mirrored := tidy.mirrored other
        rw [ordered, mem_cons] at mirrored
        by_cases same : other = tile
        · simp [same, notRest]
        · simp [same, ← mirrored]
      · intro other isOther
        exact tidy.dirty_aware other (List.mem_filter.mp isOther).1

end Awareness

namespace AwareAreas

variable {areas : AwareAreas} {areaId : String} {tile : Tile}

theorem count_filter (keys : (areas.map Prod.fst).Nodup) (areaId : String) (tile : Tile) :
    areas.count tile = count (areas.filter (·.1 ≠ areaId)) tile +
      if tile ∈ (areas.lookup areaId).getD [] then 1 else 0 := by
  induction areas with
  | nil => simp [count]
  | cons entry rest ih =>
    obtain ⟨isNew, distinct⟩ := List.nodup_cons.mp keys
    have restCount := ih distinct
    rw [lookup_cons_eq_ite]
    by_cases same : areaId = entry.1
    · have kept : rest.filter (·.1 ≠ areaId) = rest := by
        refine List.filter_eq_self.mpr fun other isOther => ?_
        have different : other.1 ≠ areaId := fun isId =>
          isNew (List.mem_map.mpr ⟨other, isOther, isId.trans same⟩)
        simpa using different
      have dropped : (entry :: rest).filter (·.1 ≠ areaId) = rest := by
        rw [filter_cons_of_neg (by simp [same]), kept]
      rw [dropped, if_pos same]
      simp [count, countP_cons]
    · have stays : (entry :: rest).filter (·.1 ≠ areaId) =
          entry :: rest.filter (·.1 ≠ areaId) :=
        filter_cons_of_pos (by simpa using fun isId : entry.1 = areaId => same isId.symm)
      rw [stays, if_neg same]
      simp only [count, countP_cons] at restCount ⊢
      omega

theorem count_cons (areas : AwareAreas) (areaId : String) (tiles : List Tile) (tile : Tile) :
    count ((areaId, tiles) :: areas) tile = areas.count tile + if tile ∈ tiles then 1 else 0 := by
  simp [count, countP_cons]

end AwareAreas

theorem tilesBetween_nodup (minX maxX minZ maxZ : Int) :
    (tilesBetween minX maxX minZ maxZ).Nodup := by
  unfold tilesBetween
  refine List.nodup_flatMap.mpr ⟨fun x _ => ?_, ?_⟩
  · refine List.nodup_range.map fun first second same => ?_
    have heights := congrArg Prod.snd same
    dsimp only at heights
    omega
  · refine List.nodup_range.imp ?_
    intro first second different tile isFirst isSecond
    obtain ⟨_, -, rfl⟩ := List.mem_map.mp isFirst
    obtain ⟨_, -, same⟩ := List.mem_map.mp isSecond
    have widths := congrArg Prod.fst same
    dsimp only at widths
    omega

theorem AwarenessArea.tiles_nodup (area : AwarenessArea) : area.tiles.Nodup :=
  (tilesBetween_nodup ..).filter _

namespace Observed

variable {observed : Observed}

/-- Unless an id's tiles were returned. -/
structure Kept (observed : Observed) : Prop where
  tidy : observed.1.Tidy
  counts : observed.1.Counts observed.2.count
  keys : (observed.2.map Prod.fst).Nodup
  known : ∀ areaId tiles, observed.2.lookup areaId = some tiles →
    observed.1.awareAreas areaId = some tiles
  distinct : ∀ areaId tiles, observed.2.lookup areaId = some tiles → tiles.Nodup

theorem Kept.tallied (kept : observed.Kept) : Tallied observed.1 observed.2 where
  toTidy := kept.tidy
  counted tile positive := by rw [kept.counts tile, if_neg positive]
  absent tile zero := by rw [kept.counts tile, if_pos zero]

/-- The tiles remembered for an id are those of the area set under it. -/
def Remembers (observed : Observed) (areaId : String) : Prop :=
  (observed.2.lookup areaId).isSome ∨ (observed.1.awareAreas areaId).getD [] = []

/-- A step keeps the counts. -/
def Fitting (observed : Observed) : AwarenessEvent → Prop
  | .setAwarenessArea areaId _ => observed.Remembers areaId ∧
      (observed.2.filter (·.1 ≠ areaId)).length + 1 < Awareness.countLimit
  | .removeAwarenessArea areaId => observed.Remembers areaId
  | .markTilesAsDirty .. => True
  | .rebuildDirtyTile => True

variable {areaId : String}

theorem Kept.remembered (kept : observed.Kept)
    (remembers : observed.Remembers areaId) :
    (observed.1.awareAreas areaId).getD [] = (observed.2.lookup areaId).getD [] := by
  cases isSet : observed.2.lookup areaId with
  | none =>
    rcases remembers with isSome | empty
    · simp [isSet] at isSome
    · simpa using empty
  | some tiles => simp [kept.known areaId tiles isSet]

theorem Kept.remembered_nodup (kept : observed.Kept) (areaId : String) :
    ((observed.2.lookup areaId).getD []).Nodup := by
  cases isSet : observed.2.lookup areaId with
  | none => simp
  | some tiles => exact kept.distinct areaId tiles isSet

theorem Kept.of_same (kept : observed.Kept) {after : Awareness} (tidy : after.Tidy)
    (sameTiles : after.awareTiles = observed.1.awareTiles)
    (sameAreas : after.awareAreas = observed.1.awareAreas) : Kept (after, observed.2) where
  tidy := tidy
  counts tile := by
    rw [sameTiles]
    exact kept.counts tile
  keys := kept.keys
  known areaId tiles isSet := by
    rw [sameAreas]
    exact kept.known areaId tiles isSet
  distinct := kept.distinct

theorem keys_filter (keys : (observed.2.map Prod.fst).Nodup) (areaId : String) :
    ((observed.2.filter (·.1 ≠ areaId)).map Prod.fst).Nodup :=
  keys.sublist (List.Sublist.map _ filter_sublist)

theorem Kept.removeAwarenessArea (kept : observed.Kept)
    (remembers : observed.Remembers areaId) :
    Kept (observed.step (.removeAwarenessArea areaId)) := by
  have counted := AwareAreas.count_filter kept.keys areaId
  have returned : (observed.1.removeAwarenessArea areaId) =
      observed.1.returnAwareTiles ((observed.2.lookup areaId).getD []) := by
    rw [← kept.remembered remembers]
    unfold Awareness.removeAwarenessArea
    cases observed.1.awareAreas areaId <;> rfl
  obtain ⟨tidy, counts, areas⟩ := kept.tidy.returnAwareTiles (kept.remembered_nodup areaId)
    kept.counts (fun tile isTile => by rw [counted tile, if_pos isTile]; exact Nat.succ_ne_zero _)
  constructor
  case tidy =>
    simp only [step, Awareness.step, returned]
    exact tidy
  case counts =>
    simp only [step, Awareness.step, returned, AwareAreas.step]
    refine counts.congr fun tile => ?_
    rw [counted tile]
    exact Nat.add_sub_cancel ..
  case keys => exact keys_filter kept.keys areaId
  case known =>
    intro other tiles isSet
    simp only [step, AwareAreas.step, lookup_filter_ne] at isSet
    simp only [step, Awareness.step, returned, areas]
    split at isSet
    · cases isSet
    · exact kept.known other tiles isSet
  case distinct =>
    intro other tiles isSet
    simp only [step, AwareAreas.step, lookup_filter_ne] at isSet
    split at isSet
    · cases isSet
    · exact kept.distinct other tiles isSet

theorem Kept.setAwarenessArea (kept : observed.Kept) (area : AwarenessArea)
    (remembers : observed.Remembers areaId)
    (room : (observed.2.filter (·.1 ≠ areaId)).length + 1 < Awareness.countLimit) :
    Kept (observed.step (.setAwarenessArea areaId area)) := by
  have counted := AwareAreas.count_filter kept.keys areaId
  have few : ∀ tile, AwareAreas.count (observed.2.filter (·.1 ≠ areaId)) tile + 1 <
      Awareness.countLimit := fun tile =>
    Nat.lt_of_le_of_lt (Nat.succ_le_succ countP_le_length) room
  obtain ⟨tidyCovered, countsCovered, areasCovered, rests⟩ :=
    @Awareness.Tidy.coverTiles observed.1 _ area area.tiles ((observed.2.lookup areaId).getD [])
      area.tiles_nodup kept.tidy kept.counts
      (fun tile isTile => by rw [counted tile, if_pos isTile]; exact Nat.succ_ne_zero _)
      (fun tile _ notOld => by rw [counted tile, if_neg notOld]; exact few tile)
  have isRest : ∀ tile, tile ∈ ((observed.2.lookup areaId).getD []).filter (· ∉ area.tiles) ↔
      tile ∈ (observed.2.lookup areaId).getD [] ∧ tile ∉ area.tiles := by
    intro tile
    simp
  obtain ⟨tidyReturned, countsReturned, areasReturned⟩ := tidyCovered.returnAwareTiles
    ((kept.remembered_nodup areaId).filter (· ∉ area.tiles)) countsCovered
    (fun tile isTile => by
      rw [counted tile, if_pos ((isRest tile).mp isTile).1]
      omega)
  have changed : { (area.tiles.foldl (Awareness.coverTile area)
      (observed.1, (observed.2.lookup areaId).getD [])).1.returnAwareTiles
        (((observed.2.lookup areaId).getD []).filter (· ∉ area.tiles)) with
      awareAreas := Function.update observed.1.awareAreas areaId (some area.tiles) }.Tidy :=
    { tidyReturned with }
  obtain ⟨tidy, tiles, areas⟩ := changed.announce observed.1
  have result : observed.1.setAwarenessArea areaId area = Awareness.announce observed.1
      { (area.tiles.foldl (Awareness.coverTile area)
        (observed.1, (observed.2.lookup areaId).getD [])).1.returnAwareTiles
          (((observed.2.lookup areaId).getD []).filter (· ∉ area.tiles)) with
        awareAreas := Function.update observed.1.awareAreas areaId (some area.tiles) } := by
    unfold Awareness.setAwarenessArea
    dsimp only
    rw [kept.remembered remembers, rests, areasReturned, areasCovered]
  constructor
  case tidy =>
    simp only [step, Awareness.step, result]
    exact tidy
  case counts =>
    intro tile
    simp only [step, Awareness.step, result, tiles, AwareAreas.step]
    refine (countsReturned.congr fun tile => ?_) tile
    rw [AwareAreas.count_cons, counted tile]
    simp only [isRest]
    by_cases isNew : tile ∈ area.tiles
    · by_cases isOld : tile ∈ (observed.2.lookup areaId).getD [] <;> simp [isNew, isOld]
    · by_cases isOld : tile ∈ (observed.2.lookup areaId).getD [] <;> simp [isNew, isOld]
  case keys =>
    refine List.nodup_cons.mpr ⟨fun isKey => ?_, keys_filter kept.keys areaId⟩
    obtain ⟨entry, isEntry, isId⟩ := List.mem_map.mp isKey
    have different := (List.mem_filter.mp isEntry).2
    simp [isId] at different
  case known =>
    intro other otherTiles isSet
    simp only [step, AwareAreas.step, lookup_insert_filter_ne] at isSet
    simp only [step, Awareness.step, result, areas]
    by_cases same : other = areaId
    · rw [if_pos same] at isSet
      rw [same, Function.update_self]
      exact isSet
    · rw [if_neg same] at isSet
      rw [Function.update_of_ne same]
      exact kept.known other otherTiles isSet
  case distinct =>
    intro other otherTiles isSet
    simp only [step, AwareAreas.step, lookup_insert_filter_ne] at isSet
    split at isSet
    · cases isSet
      exact area.tiles_nodup
    · exact kept.distinct other otherTiles isSet

theorem Kept.step {event : AwarenessEvent} (kept : observed.Kept)
    (fitting : observed.Fitting event) : Kept (observed.step event) := by
  cases event with
  | setAwarenessArea areaId area => exact kept.setAwarenessArea area fitting.1 fitting.2
  | removeAwarenessArea areaId => exact kept.removeAwarenessArea fitting
  | markTilesAsDirty minX maxX minY maxY =>
    obtain ⟨tidy, tiles, areas⟩ := kept.tidy.markTiles (tilesBetween minX maxX minY maxY)
    obtain ⟨tidyAfter, tilesAfter, areasAfter⟩ := tidy.announce observed.1
    exact kept.of_same tidyAfter (tilesAfter.trans tiles) (areasAfter.trans areas)
  | rebuildDirtyTile =>
    obtain ⟨tidy, tiles, areas⟩ := kept.tidy.rebuildDirtyTile
    exact kept.of_same tidy tiles areas

theorem kept_initial : Kept initial := by
  constructor
  case tidy => constructor <;> simp [initial, Awareness.initial]
  case counts =>
    intro tile
    simp [initial, Awareness.initial, AwareAreas.count]
  case keys => simp [initial]
  case known => simp [initial]
  case distinct => simp [initial]

/-- The count of a tile is the number of awareness areas over it, as long as an area that is set
again is known or holds no tiles. -/
theorem run_tallied (events : List AwarenessEvent)
    (fitting : Admissible step Fitting initial events) :
    Tallied (run step initial events).1 (run step initial events).2 := by
  apply Kept.tallied
  exact run_invariant Kept (fun _ _ kept isFitting => kept.step isFitting) kept_initial fitting

instance decidableRemembers (observed : Observed) (areaId : String) :
    Decidable (observed.Remembers areaId) :=
  inferInstanceAs (Decidable (_ ∨ _))

instance decidableFitting (observed : Observed) :
    (event : AwarenessEvent) → Decidable (observed.Fitting event)
  | .setAwarenessArea _ _ => inferInstanceAs (Decidable (_ ∧ _))
  | .removeAwarenessArea areaId => inferInstanceAs (Decidable (observed.Remembers areaId))
  | .markTilesAsDirty .. => isTrue trivial
  | .rebuildDirtyTile => isTrue trivial

/-- Two tiles, neither of them built. -/
def pathArea : AwarenessArea :=
  { tileMinX := 0, tileMaxX := 1, tileMinZ := 0, tileMaxZ := 0, meets := fun _ => true,
    focused := fun _ => false, cached := fun _ => false }

theorem run_tallied_moved_area :
    Admissible step Fitting initial
        [.setAwarenessArea "0" pathArea, .setAwarenessArea "1" pathArea, .rebuildDirtyTile,
          .removeAwarenessArea "0"] ∧
      Tallied
        (run step initial
          [.setAwarenessArea "0" pathArea, .setAwarenessArea "1" pathArea, .rebuildDirtyTile,
            .removeAwarenessArea "0"]).1
        (run step initial
          [.setAwarenessArea "0" pathArea, .setAwarenessArea "1" pathArea, .rebuildDirtyTile,
            .removeAwarenessArea "0"]).2 := by
  refine ⟨by decide +kernel, ?_⟩
  apply run_tallied
  decide +kernel

/-- An area set again is not counted. -/
theorem run_returns_tiles_twice :
    ¬ Tallied
        (run step initial [.setAwarenessArea "0" pathArea, .removeAwarenessArea "0",
          .setAwarenessArea "0" pathArea]).1
        (run step initial [.setAwarenessArea "0" pathArea, .removeAwarenessArea "0",
          .setAwarenessArea "0" pathArea]).2 ∧
      ¬ Tallied
        (run step initial [.setAwarenessArea "0" pathArea, .removeAwarenessArea "0",
          .removeAwarenessArea "0"]).1
        (run step initial [.setAwarenessArea "0" pathArea, .removeAwarenessArea "0",
          .removeAwarenessArea "0"]).2 := by
  constructor
  · intro tallied
    have counted := tallied.counted (0, 0) (by decide +kernel)
    revert counted
    decide +kernel
  · intro tallied
    have sound := tallied.sound
    revert sound
    decide +kernel

end Observed

end Cyphesis.Navigation
