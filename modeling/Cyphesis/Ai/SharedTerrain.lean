import Cyphesis.Foundation.MachineInt
import Mathlib.Data.List.Nodup
import Mathlib.Tactic.Ring

/-!
# Heights of the terrain

Heights are copied from the segments of the terrain into an array, for a window that may begin and
end anywhere in a segment.  The integers are `int`s of 32 bits; a computation that leaves their
range is undefined, and there is no result then.
-/

namespace Cyphesis.Ai

open Cyphesis.Foundation List

/-- Integers from `first`, below `last`. -/
def upTo (first last : Int) : List Int :=
  (range (last - first).toNat).map fun turn : Nat => first + turn

@[simp]
theorem mem_upTo {first last place : Int} :
    place ∈ upTo first last ↔ first ≤ place ∧ place < last := by
  rw [upTo, mem_map]
  constructor
  · rintro ⟨turn, isTurn, rfl⟩
    rw [mem_range] at isTurn
    omega
  · rintro ⟨notBefore, before⟩
    exact ⟨(place - first).toNat, by rw [mem_range]; omega, by omega⟩

theorem nodup_upTo (first last : Int) : (upTo first last).Nodup := by
  refine nodup_range.map ?_
  intro left right same
  dsimp only at same
  omega

/-- A key tells the parts apart. -/
theorem nodup_flatMap_of_key {α β : Type} {parts : List α} {part : α → List β} (key : β → α)
    (distinct : parts.Nodup) (inner : ∀ place ∈ parts, (part place).Nodup)
    (keyed : ∀ place ∈ parts, ∀ item ∈ part place, key item = place) :
    (parts.flatMap part).Nodup := by
  rw [nodup_flatMap]
  refine ⟨inner, distinct.imp_of_mem ?_⟩
  intro first second isFirst isSecond different item inFirst inSecond
  apply different
  rw [← keyed first isFirst item inFirst, keyed second isSecond item inSecond]

/-- `for (int place = first; place < last; ++place)`, gathering what the turns write. -/
def forInt {β : Type} (first last : Int) (body : Int → Option (List β)) : Option (List β) :=
  ((upTo first last).mapM fun place => do
    let written ← body place
    let _ ← toInt (place + 1)
    return written).map flatten

theorem mapM_eq_some_map {α β : Type} {turn : α → Option β} (value : α → β) {items : List α}
    (turns : ∀ item ∈ items, turn item = some (value item)) :
    items.mapM turn = some (items.map value) := by
  induction items with
  | nil => rfl
  | cons item rest ih =>
    rw [mapM_cons, turns item mem_cons_self, ih fun other isOther => turns other (.tail _ isOther)]
    rfl

theorem isSome_of_mapM {α β : Type} {turn : α → Option β} {items : List α} {values : List β}
    (ends : items.mapM turn = some values) : ∀ item ∈ items, ∃ value, turn item = some value := by
  induction items generalizing values with
  | nil => simp
  | cons item rest ih =>
    rw [mapM_cons, Option.bind_eq_bind, Option.bind_eq_some_iff] at ends
    obtain ⟨value, isValue, others⟩ := ends
    rw [Option.bind_eq_bind, Option.bind_eq_some_iff] at others
    obtain ⟨values, areValues, -⟩ := others
    intro other isOther
    rcases mem_cons.mp isOther with rfl | isOther
    · exact ⟨value, isValue⟩
    · exact ih areValues other isOther

theorem forInt_eq_some {β : Type} {first last : Int} {body : Int → Option (List β)}
    {written : Int → List β}
    (turns : ∀ place, first ≤ place → place < last →
      body place = some (written place) ∧ FitsInt (place + 1)) :
    forInt first last body = some ((upTo first last).flatMap written) := by
  rw [forInt, mapM_eq_some_map written, Option.map_some, flatMap_def]
  intro place isPlace
  obtain ⟨isBody, fits⟩ := turns place (mem_upTo.mp isPlace).1 (mem_upTo.mp isPlace).2
  simp [isBody, toInt, fits]

/-- A loop that ends has all its turns. -/
theorem turn_of_forInt {β : Type} {first last : Int} {body : Int → Option (List β)}
    {result : List β} (ends : forInt first last body = some result) (place : Int)
    (notBefore : first ≤ place) (before : place < last) :
    (∃ written, body place = some written) ∧ FitsInt (place + 1) := by
  obtain ⟨parts, areParts, -⟩ := Option.map_eq_some_iff.mp ends
  obtain ⟨part, isPart⟩ := isSome_of_mapM areParts place (mem_upTo.mpr ⟨notBefore, before⟩)
  rw [Option.bind_eq_bind, Option.bind_eq_some_iff] at isPart
  obtain ⟨written, isWritten, next⟩ := isPart
  rw [Option.bind_eq_bind, Option.bind_eq_some_iff] at next
  obtain ⟨_, fits, -⟩ := next
  exact ⟨⟨written, isWritten⟩, (toInt_eq_some.mp fits).1⟩

namespace SharedTerrain

variable {H : Type} [Neg H] [OfNat H 10]

/-- A segment, or a substitute. -/
def heightsOf (segment : Option (Int → Int → H)) : Int → Int → H :=
  segment.getD fun _ _ => -10

/-- The part of `blitHeights` for one segment. -/
def blitSegment (heights : Int → Int → H)
    (segmentResolution xSize xMin xMax yMin yMax segmentX segmentY : Int) :
    Option (List (Int × H)) := do
  let segmentXStart ← toInt (segmentX * segmentResolution)
  let segmentYStart ← toInt (segmentY * segmentResolution)
  let dataXOffset ← toInt (segmentXStart - xMin)
  let dataYOffset ← toInt (segmentYStart - yMin)
  let xStart := max (← toInt (xMin - segmentXStart)) 0
  let yStart := max (← toInt (yMin - segmentYStart)) 0
  let xEnd := min (← toInt (xMax - segmentXStart)) segmentResolution
  let yEnd := min (← toInt (yMax - segmentYStart)) segmentResolution
  forInt xStart xEnd fun x =>
    forInt yStart yEnd fun y => do
      let row ← toInt ((← toInt (dataYOffset + y)) * xSize)
      let place ← toInt (row + (← toInt (dataXOffset + x)))
      return [(place, heights x y)]

/-- The writes into the array, in order.  `getSegmentAtIndex` gives the heights of a segment. -/
def blitHeights (getSegmentAtIndex : Int → Int → Option (Int → Int → H))
    (segmentResolution xMin xMax yMin yMax : Int) : Option (List (Int × H)) := do
  let xSize ← toInt (xMax - xMin)
  let segmentXMin := xMin / segmentResolution
  let segmentXMax := xMax / segmentResolution
  let segmentYMin := yMin / segmentResolution
  let segmentYMax := yMax / segmentResolution
  forInt segmentXMin (segmentXMax + 1) fun segmentX =>
    forInt segmentYMin (segmentYMax + 1) fun segmentY =>
      blitSegment (heightsOf (getSegmentAtIndex segmentX segmentY)) segmentResolution xSize
        xMin xMax yMin yMax segmentX segmentY

/-- Height at a point of the world. -/
def heightAt (getSegmentAtIndex : Int → Int → Option (Int → Int → H)) (resolution x y : Int) : H :=
  heightsOf (getSegmentAtIndex (x / resolution) (y / resolution)) (x % resolution) (y % resolution)

/-- Points in the order of the loops. -/
def visited (resolution xMin xMax yMin yMax : Int) : List (Int × Int) :=
  (upTo (xMin / resolution) (xMax / resolution + 1)).flatMap fun segmentX =>
    (upTo (yMin / resolution) (yMax / resolution + 1)).flatMap fun segmentY =>
      (upTo (max (xMin - segmentX * resolution) 0)
        (min (xMax - segmentX * resolution) resolution)).flatMap fun x =>
        (upTo (max (yMin - segmentY * resolution) 0)
          (min (yMax - segmentY * resolution) resolution)).map fun y =>
          (segmentX * resolution + x, segmentY * resolution + y)

variable (getSegmentAtIndex : Int → Int → Option (Int → Int → H))
  {resolution xMin xMax yMin yMax : Int}

theorem ediv_emod_of_segment (segment : Int) {offset : Int} (notNegative : 0 ≤ offset)
    (inside : offset < resolution) :
    (segment * resolution + offset) / resolution = segment ∧
      (segment * resolution + offset) % resolution = offset :=
  (Int.ediv_emod_unique (lt_of_le_of_lt notNegative inside)).mpr ⟨by ring, notNegative, inside⟩

theorem mem_visited (positive : 0 < resolution) {point : Int × Int} :
    point ∈ visited resolution xMin xMax yMin yMax ↔
      (xMin ≤ point.1 ∧ point.1 < xMax) ∧ yMin ≤ point.2 ∧ point.2 < yMax := by
  obtain ⟨x, y⟩ := point
  simp only [visited, mem_flatMap, mem_map, mem_upTo, Prod.mk.injEq]
  constructor
  · rintro ⟨segmentX, -, segmentY, -, xOffset, isX, yOffset, isY, rfl, rfl⟩
    omega
  · rintro ⟨isX, isY⟩
    have xParts := Int.ediv_mul_add_emod x resolution
    have yParts := Int.ediv_mul_add_emod y resolution
    have xOffset := Int.emod_nonneg x positive.ne'
    have yOffset := Int.emod_nonneg y positive.ne'
    have xInside := Int.emod_lt_of_pos x positive
    have yInside := Int.emod_lt_of_pos y positive
    exact ⟨x / resolution, ⟨Int.ediv_le_ediv positive isX.1,
      Int.lt_add_one_of_le (Int.ediv_le_ediv positive isX.2.le)⟩,
      y / resolution, ⟨Int.ediv_le_ediv positive isY.1,
      Int.lt_add_one_of_le (Int.ediv_le_ediv positive isY.2.le)⟩,
      x % resolution, by omega, y % resolution, by omega, xParts, yParts⟩

theorem nodup_visited : (visited resolution xMin xMax yMin yMax).Nodup := by
  refine nodup_flatMap_of_key (fun point => point.1 / resolution) (nodup_upTo _ _) ?_ ?_
  · intro segmentX _
    refine nodup_flatMap_of_key (fun point => point.2 / resolution) (nodup_upTo _ _) ?_ ?_
    · intro segmentY _
      refine nodup_flatMap_of_key (fun point => point.1 - segmentX * resolution)
        (nodup_upTo _ _) ?_ ?_
      · intro x _
        refine (nodup_upTo _ _).map fun first second same => ?_
        exact add_left_cancel (Prod.ext_iff.mp same).2
      · intro x _ point isPoint
        obtain ⟨y, -, rfl⟩ := mem_map.mp isPoint
        exact add_sub_cancel_left _ _
    · intro segmentY _ point isPoint
      simp only [mem_flatMap, mem_map, mem_upTo] at isPoint
      obtain ⟨x, -, y, isY, rfl⟩ := isPoint
      exact (ediv_emod_of_segment _ (by omega) (by omega)).1
  · intro segmentX _ point isPoint
    simp only [mem_flatMap, mem_map, mem_upTo] at isPoint
    obtain ⟨segmentY, -, x, isX, y, -, rfl⟩ := isPoint
    exact (ediv_emod_of_segment _ (by omega) (by omega)).1

/-- What the loops need of one side of the window: the counter of the segments passes the last one,
and the start of the first segment and its distance from the end of the window fit. -/
def SideFits (resolution first last : Int) : Prop :=
  FitsInt (last / resolution + 1) ∧ FitsInt (first / resolution * resolution) ∧
    FitsInt (last - first / resolution * resolution)

instance (resolution first last : Int) : Decidable (SideFits resolution first last) :=
  inferInstanceAs (Decidable (_ ∧ _ ∧ _))

/-- Both sides fit, and so does the last index of the array. -/
def WindowFits (resolution xMin xMax yMin yMax : Int) : Prop :=
  SideFits resolution xMin xMax ∧ SideFits resolution yMin yMax ∧
    FitsInt ((yMax - yMin) * (xMax - xMin) - 1)

instance : Decidable (WindowFits resolution xMin xMax yMin yMax) :=
  inferInstanceAs (Decidable (_ ∧ _ ∧ _))

theorem SideFits.segment {first last segment : Int} (fits : SideFits resolution first last)
    (positive : 0 < resolution) (isInt : FitsInt last) (some : first < last)
    (notBefore : first / resolution ≤ segment)
    (before : segment < last / resolution + 1) :
    FitsInt (segment * resolution) ∧ FitsInt (segment * resolution - first) ∧
      FitsInt (first - segment * resolution) ∧ FitsInt (last - segment * resolution) := by
  have lower : first / resolution * resolution ≤ segment * resolution :=
    Int.mul_le_mul_of_nonneg_right notBefore positive.le
  have upper : segment * resolution ≤ last / resolution * resolution :=
    Int.mul_le_mul_of_nonneg_right (Int.lt_add_one_iff.mp before) positive.le
  have start := Int.ediv_mul_le first positive.ne'
  have stop := Int.ediv_mul_le last positive.ne'
  obtain ⟨-, ⟨least, -⟩, -, room⟩ := fits
  unfold FitsInt at *
  omega

theorem SideFits.size {first last : Int} (fits : SideFits resolution first last)
    (positive : 0 < resolution) (some : first < last) : FitsInt (last - first) := by
  have start := Int.ediv_mul_le first positive.ne'
  have room := fits.2.2
  unfold FitsInt at *
  omega

theorem SideFits.next {first last segment : Int} (fits : SideFits resolution first last)
    (positive : 0 < resolution) (notBefore : first / resolution ≤ segment)
    (before : segment < last / resolution + 1) : FitsInt (segment + 1) := by
  obtain ⟨⟨-, most⟩, ⟨least, -⟩, -⟩ := fits
  constructor
  · rcases lt_or_ge (first / resolution) 0 with negative | notNegative
    · have start : first / resolution * resolution ≤ first / resolution * 1 :=
        Int.mul_le_mul_of_nonpos_left negative.le (by omega)
      omega
    · omega
  · omega

section

variable (positive : 0 < resolution) (xInt : FitsInt xMax) (yInt : FitsInt yMax)
  (xSome : xMin < xMax) (ySome : yMin < yMax)

include positive xInt yInt xSome ySome

omit [Neg H] [OfNat H 10] in
theorem blitSegment_eq (heights : Int → Int → H) {segmentX segmentY : Int}
    (fits : WindowFits resolution xMin xMax yMin yMax)
    (isX : xMin / resolution ≤ segmentX ∧ segmentX < xMax / resolution + 1)
    (isY : yMin / resolution ≤ segmentY ∧ segmentY < yMax / resolution + 1) :
    blitSegment heights resolution (xMax - xMin) xMin xMax yMin yMax segmentX segmentY =
      some ((upTo (max (xMin - segmentX * resolution) 0)
          (min (xMax - segmentX * resolution) resolution)).flatMap fun x =>
        (upTo (max (yMin - segmentY * resolution) 0)
          (min (yMax - segmentY * resolution) resolution)).flatMap fun y =>
          [((segmentY * resolution - yMin + y) * (xMax - xMin) + (segmentX * resolution - xMin + x),
            heights x y)]) := by
  obtain ⟨xFits, yFits, last⟩ := fits
  obtain ⟨xStart, xOffset, xBefore, xEnd⟩ := xFits.segment positive xInt xSome isX.1 isX.2
  obtain ⟨yStart, yOffset, yBefore, yEnd⟩ := yFits.segment positive yInt ySome isY.1 isY.2
  simp only [blitSegment, toInt, xStart, xOffset, xBefore, xEnd, yStart, yOffset, yBefore, yEnd,
    if_true, Option.bind_eq_bind, Option.bind_some]
  refine forInt_eq_some fun x xFirst xLast => ⟨forInt_eq_some fun y yFirst yLast => ⟨?_, ?_⟩, ?_⟩
  · -- The row and the column lie within the window.
    have notNegative : 0 ≤ (segmentY * resolution - yMin + y) * (xMax - xMin) :=
      Int.mul_nonneg (by omega) (by omega)
    have row : (segmentY * resolution - yMin + y) * (xMax - xMin) ≤
        (yMax - yMin - 1) * (xMax - xMin) :=
      Int.mul_le_mul_of_nonneg_right (by omega) (by omega)
    rw [sub_mul _ 1, one_mul] at row
    have height := yFits.size positive ySome
    have rowInside : FitsInt (segmentY * resolution - yMin + y) := by unfold FitsInt at *; omega
    have rowStart : FitsInt ((segmentY * resolution - yMin + y) * (xMax - xMin)) := by
      unfold FitsInt at *
      omega
    have column : FitsInt (segmentX * resolution - xMin + x) := by unfold FitsInt at *; omega
    have place : FitsInt ((segmentY * resolution - yMin + y) * (xMax - xMin) +
        (segmentX * resolution - xMin + x)) := by
      unfold FitsInt at *
      omega
    simp only [rowInside, rowStart, column, place, if_true, Option.bind_some]
    rfl
  · unfold FitsInt at *
    omega
  · unfold FitsInt at *
    omega

theorem blitHeights_eq (fits : WindowFits resolution xMin xMax yMin yMax) :
    blitHeights getSegmentAtIndex resolution xMin xMax yMin yMax =
      some ((visited resolution xMin xMax yMin yMax).map fun point =>
        ((point.2 - yMin) * (xMax - xMin) + (point.1 - xMin),
          heightAt getSegmentAtIndex resolution point.1 point.2)) := by
  simp only [blitHeights, toInt, fits.1.size positive xSome, if_true, Option.bind_eq_bind,
    Option.bind_some]
  rw [forInt_eq_some fun segmentX xFirst xLast => ⟨forInt_eq_some fun segmentY yFirst yLast =>
    ⟨blitSegment_eq positive xInt yInt xSome ySome _ fits ⟨xFirst, xLast⟩ ⟨yFirst, yLast⟩,
      fits.2.1.next positive yFirst yLast⟩, fits.1.next positive xFirst xLast⟩]
  simp only [visited, map_flatMap]
  congr 1
  refine flatMap_congr fun segmentX _ => flatMap_congr fun segmentY _ => ?_
  refine flatMap_congr fun x isX => ?_
  rw [map_map, map_eq_flatMap]
  refine flatMap_congr fun y isY => ?_
  rw [mem_upTo] at isX isY
  obtain ⟨xSegment, xOffset⟩ := ediv_emod_of_segment segmentX (by omega : 0 ≤ x)
    (by omega : x < resolution)
  obtain ⟨ySegment, yOffset⟩ := ediv_emod_of_segment segmentY (by omega : 0 ≤ y)
    (by omega : y < resolution)
  simp only [Function.comp, heightAt, xSegment, xOffset, ySegment, yOffset, sub_add_eq_add_sub]

omit xInt yInt in
/-- A window that is copied fits: the loops reach each of the values. -/
theorem fits_of_blitHeights {writes : List (Int × H)}
    (copied : blitHeights getSegmentAtIndex resolution xMin xMax yMin yMax = some writes) :
    WindowFits resolution xMin xMax yMin yMax := by
  simp only [blitHeights, Option.bind_eq_bind, Option.bind_eq_some_iff, toInt_eq_some] at copied
  obtain ⟨_, ⟨-, rfl⟩, copied⟩ := copied
  have column {x : Int} (isFirst : xMin ≤ x) (isLast : x ≤ xMax) := turn_of_forInt copied _
    (Int.ediv_le_ediv positive isFirst) (Int.lt_add_one_of_le (Int.ediv_le_ediv positive isLast))
  have segment {x y : Int} (xFirst : xMin ≤ x) (xLast : x ≤ xMax) (yFirst : yMin ≤ y)
      (yLast : y ≤ yMax) :
      (∃ written, blitSegment (heightsOf (getSegmentAtIndex (x / resolution) (y / resolution)))
        resolution (xMax - xMin) xMin xMax yMin yMax (x / resolution) (y / resolution) =
          some written) ∧ FitsInt (y / resolution + 1) := by
    obtain ⟨_, inner⟩ := (column xFirst xLast).1
    exact turn_of_forInt inner _ (Int.ediv_le_ediv positive yFirst)
      (Int.lt_add_one_of_le (Int.ediv_le_ediv positive yLast))
  have xParts := Int.ediv_mul_add_emod (xMax - 1) resolution
  have yParts := Int.ediv_mul_add_emod (yMax - 1) resolution
  have xOffset := Int.emod_nonneg (xMax - 1) positive.ne'
  have yOffset := Int.emod_nonneg (yMax - 1) positive.ne'
  have xInside := Int.emod_lt_of_pos (xMax - 1) positive
  have yInside := Int.emod_lt_of_pos (yMax - 1) positive
  obtain ⟨⟨_, first⟩, -⟩ := segment le_rfl xSome.le le_rfl ySome.le
  obtain ⟨⟨_, last⟩, -⟩ := segment (x := xMax - 1) (y := yMax - 1) (by omega) (by omega) (by omega)
    (by omega)
  simp only [blitSegment, Option.bind_eq_bind, Option.bind_eq_some_iff, toInt_eq_some]
    at first last
  obtain ⟨_, ⟨xStart, rfl⟩, _, ⟨yStart, rfl⟩, -, -, -, -, _, -, _, -, _, ⟨xRoom, -⟩, _,
    ⟨yRoom, -⟩, -⟩ := first
  refine ⟨⟨(column xSome.le le_rfl).2, xStart, xRoom⟩,
    ⟨(segment le_rfl xSome.le ySome.le le_rfl).2, yStart, yRoom⟩, ?_⟩
  obtain ⟨_, ⟨-, rfl⟩, _, ⟨-, rfl⟩, _, ⟨-, rfl⟩, _, ⟨-, rfl⟩, _, ⟨-, rfl⟩, _, ⟨-, rfl⟩, _, ⟨-, rfl⟩,
    _, ⟨-, rfl⟩, loops⟩ := last
  obtain ⟨_, rows⟩ := (turn_of_forInt loops ((xMax - 1) % resolution) (by omega) (by omega)).1
  obtain ⟨_, written⟩ := (turn_of_forInt rows ((yMax - 1) % resolution) (by omega) (by omega)).1
  simp only [Option.bind_eq_some_iff, toInt_eq_some] at written
  obtain ⟨_, ⟨-, rfl⟩, _, ⟨-, rfl⟩, _, ⟨-, rfl⟩, _, ⟨place, -⟩, -⟩ := written
  rw [sub_add_eq_add_sub, yParts, sub_add_eq_add_sub, xParts] at place
  have isLast : (yMax - 1 - yMin) * (xMax - xMin) + (xMax - 1 - xMin) =
      (yMax - yMin) * (xMax - xMin) - 1 := by ring
  rw [← isLast]
  exact place

end

/-- Every place of the array is written once, none outside it, and the place of each point of the
window gets the height at that point. -/
structure Covers (getSegmentAtIndex : Int → Int → Option (Int → Int → H))
    (resolution xMin xMax yMin yMax : Int) (writes : List (Int × H)) : Prop where
  once : (writes.map Prod.fst).Nodup
  places : ∀ place, place ∈ writes.map Prod.fst ↔
    0 ≤ place ∧ place < (yMax - yMin) * (xMax - xMin)
  heights : ∀ x y, xMin ≤ x → x < xMax → yMin ≤ y → y < yMax →
    ((y - yMin) * (xMax - xMin) + (x - xMin), heightAt getSegmentAtIndex resolution x y) ∈ writes

theorem visited_covers (positive : 0 < resolution) (xSome : xMin < xMax) :
    Covers getSegmentAtIndex resolution xMin xMax yMin yMax
      ((visited resolution xMin xMax yMin yMax).map fun point =>
        ((point.2 - yMin) * (xMax - xMin) + (point.1 - xMin),
          heightAt getSegmentAtIndex resolution point.1 point.2)) := by
  have parts (x y : Int) (isX : xMin ≤ x ∧ x < xMax) :
      ((y - yMin) * (xMax - xMin) + (x - xMin)) / (xMax - xMin) = y - yMin ∧
        ((y - yMin) * (xMax - xMin) + (x - xMin)) % (xMax - xMin) = x - xMin :=
    ediv_emod_of_segment _ (by omega) (by omega)
  constructor
  · rw [map_map]
    refine nodup_visited.map_on fun first isFirst second isSecond same => ?_
    have firstParts := parts _ first.2 ((mem_visited positive).mp isFirst).1
    have secondParts := parts _ second.2 ((mem_visited positive).mp isSecond).1
    dsimp only [Function.comp] at same
    rw [same, secondParts.1, secondParts.2] at firstParts
    exact Prod.ext (by omega) (by omega)
  · intro place
    simp only [map_map, mem_map, mem_visited positive, Prod.exists, Function.comp]
    constructor
    · rintro ⟨x, y, ⟨isX, isY⟩, rfl⟩
      have row : (y - yMin) * (xMax - xMin) ≤ (yMax - yMin - 1) * (xMax - xMin) :=
        Int.mul_le_mul_of_nonneg_right (by omega) (by omega)
      have notNegative : 0 ≤ (y - yMin) * (xMax - xMin) := Int.mul_nonneg (by omega) (by omega)
      rw [sub_mul _ 1, one_mul] at row
      omega
    · rintro ⟨notNegative, inside⟩
      have width : 0 < xMax - xMin := by omega
      have column := Int.emod_nonneg place width.ne'
      have columnInside := Int.emod_lt_of_pos place width
      have row := Int.ediv_nonneg notNegative width.le
      have rowInside := Int.ediv_lt_of_lt_mul width inside
      refine ⟨xMin + place % (xMax - xMin), yMin + place / (xMax - xMin),
        ⟨by omega, by omega⟩, ?_⟩
      rw [add_sub_cancel_left, add_sub_cancel_left]
      exact Int.ediv_mul_add_emod _ _
  · intro x y xFirst xLast yFirst yLast
    exact mem_map.mpr ⟨(x, y), (mem_visited positive).mpr ⟨⟨xFirst, xLast⟩, yFirst, yLast⟩, rfl⟩

/-- The window is copied as a whole exactly if its values fit into an `int`. -/
theorem blitHeights_covers_iff (resolution xMin xMax yMin yMax : Int) (positive : 0 < resolution)
    (xInt : FitsInt xMax) (yInt : FitsInt yMax) (xSome : xMin < xMax) (ySome : yMin < yMax) :
    (∃ writes, blitHeights getSegmentAtIndex resolution xMin xMax yMin yMax = some writes ∧
      Covers getSegmentAtIndex resolution xMin xMax yMin yMax writes) ↔
      WindowFits resolution xMin xMax yMin yMax := by
  constructor
  · rintro ⟨writes, copied, -⟩
    exact fits_of_blitHeights getSegmentAtIndex positive xSome ySome copied
  · intro fits
    exact ⟨_, blitHeights_eq getSegmentAtIndex positive xInt yInt xSome ySome fits,
      visited_covers getSegmentAtIndex positive xSome⟩

/-- Points around the corner of segments. -/
theorem blitHeights_covers_corner :
    ∃ writes, blitHeights
        (fun x y => if x = 0 ∧ y = 0 then some fun _ _ => (7 : Int) else none) 4 (-1) 2 (-1) 1 =
          some writes ∧
      Covers (fun x y => if x = 0 ∧ y = 0 then some fun _ _ => (7 : Int) else none)
        4 (-1) 2 (-1) 1 writes :=
  (blitHeights_covers_iff (fun x y => if x = 0 ∧ y = 0 then some fun _ _ => (7 : Int) else none)
    4 (-1) 2 (-1) 1 (by decide) (by decide) (by decide) (by decide) (by decide)).mpr (by decide)

/-- With the last `int` as the end, the counter of the segments cannot pass it. -/
theorem blitHeights_last_int :
    blitHeights (fun _ _ => none : Int → Int → Option (Int → Int → Int)) 1 (2 ^ 31 - 2) (2 ^ 31 - 1)
      0 1 = none := by
  decide

end SharedTerrain

end Cyphesis.Ai
