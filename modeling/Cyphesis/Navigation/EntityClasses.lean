import Cyphesis.Navigation.CurrentData
import Mathlib.Algebra.Order.Ring.Rat
import Mathlib.Data.Finset.Basic

/-!
# Moving entities and obstacles

Entries are kept among the moving entities or with an area, as what was received about them says.
-/

namespace Cyphesis.Navigation

open Cyphesis.Foundation
open Function

/-- What `buildEntityAreas` computes with. -/
structure Boxes (Value Area : Type) where
  height : Value → ℚ
  stepHeight : ℚ
  scaled : Value → Value → Value
  rotBox : Value → Option Value → Value → Area

/-- The newest received about an entry. -/
structure Newest (Value : Type) where
  pos : TimestampedProperty Value
  bbox : TimestampedProperty Value
  isSolid : Bool

/-- The collections of entities, with what was told of each entity. -/
structure ClassedEntities (Value Area Layer : Type) where
  data : NavigationData Value Area Layer
  movingEntities : Finset Nat
  newest : Nat → Option (Newest Value)

/-- What observers report of the entities they see. -/
inductive EntityCall (Value : Type) where
  | addEntity (observer : Nat) (entity : MemEntity Value) (isDynamic : Bool)
  | updateEntity (observer : Nat) (entity : MemEntity Value) (ent : UpdateAttributes)
  | removeEntity (observer entity : Nat)

variable {Value Area Layer : Type} (boxes : Boxes Value Area) (geometry : Geometry Value Area Layer)
  (entry : EntityEntry Value) (entity : MemEntity Value) (ent : Option UpdateAttributes)

namespace Boxes

def buildEntityAreas : Option Area :=
  match entry.bbox.data, entry.pos.data with
  | some bbox, some pos =>
    if ¬entry.isSolid ∨ boxes.height bbox < boxes.stepHeight then none
    else some (boxes.rotBox pos entry.orientation.data bbox)
  | _, _ => none

/-- Geometry with these boxes. -/
def fitted : Geometry Value Area Layer :=
  { geometry with
    buildEntityAreas := boxes.buildEntityAreas
    scaledBbox := fun bbox scale => some (boxes.scaled bbox scale) }

/-- The entry as read; are position or box new? -/
def read : EntityEntry Value × Bool × Bool :=
  entry.readProperties (fun bbox scale => some (boxes.scaled bbox scale)) entity ent
    entity.lastUpdated

end Boxes

namespace Newest

def unset : Newest Value :=
  { pos := ⟨none, -1⟩, bbox := ⟨none, -1⟩, isSolid := entity.solid.getD true }

def receive (newest : Newest Value) : Newest Value :=
  { pos := (newest.pos.update ((ent.map UpdateAttributes.pos).getD true) entity.lastUpdated
      entity.position).1
    bbox := (newest.bbox.update ((ent.map UpdateAttributes.bbox).getD true) entity.lastUpdated
      entity.bbox).1
    isSolid := entity.solid.getD true }

/-- Solid, positioned, with a high box. -/
def Obstacle (newest : Newest Value) : Prop :=
  newest.isSolid ∧ newest.pos.data.isSome ∧
    ∃ bbox, newest.bbox.data = some bbox ∧ boxes.stepHeight ≤ boxes.height bbox

end Newest

namespace NavigationData

/-- Entry of `addEntity` as it comes. -/
def addedEntry (data : NavigationData Value Area Layer) (observer : Nat) (isDynamic : Bool) :
    EntityEntry Value :=
  let found := match data.observedEntities entity.entityId with
    | none => newEntry entity isDynamic
    | some entry => { entry with numberOfObservers := entry.numberOfObservers + 1 }
  let isOwnEntity : Bool := entity.entityId = observer
  if isOwnEntity then { found with isActorOwned := true } else found

/-- Does `addEntity` process the entry? -/
def isProcessed (observer : Nat) : Bool :=
  let isNotActorAndFirstSeen : Bool := !entry.isActorOwned ∧ entry.numberOfObservers = 1
  isNotActorAndFirstSeen || entity.entityId = observer

end NavigationData

/-- There is a velocity, which is not zero. -/
def EntityEntry.speeds : Bool :=
  (entry.velocity.data.map fun velocity => !geometry.isZero velocity).getD false

/-- Is it inserted into `mMovingEntities`? -/
def Boxes.startsMoving : Bool :=
  let (read, hasNewPosition, hasNewBbox) := boxes.read entry entity ent
  !read.isMoving &&
    !(if read.isIgnored ∧ hasNewBbox then read.scaledBbox.isNone else read.isIgnored) &&
    read.bbox.data.isSome && (hasNewPosition || hasNewBbox) && read.speeds geometry

namespace ClassedEntities

variable (domainEntityId observer : Nat) (isDynamic : Bool)
  (state : ClassedEntities Value Area Layer)

def initial (desiredTilesAmount : Nat) : ClassedEntities Value Area Layer :=
  { data := .initial desiredTilesAmount, movingEntities := ∅, newest := fun _ => none }

/-- What is received goes to the newest. -/
def hear : Nat → Option (Newest Value) :=
  update state.newest entity.entityId
    ((state.newest entity.entityId).map (.receive entity ent))

def processEntityUpdate : ClassedEntities Value Area Layer :=
  { data := state.data.processEntityUpdate (boxes.fitted geometry) entry entity ent
      entity.lastUpdated
    movingEntities :=
      if boxes.startsMoving geometry entry entity ent then
        insert entity.entityId state.movingEntities
      else state.movingEntities
    newest := state.hear entity ent }

/-- `addEntity` puts the entry into the table. -/
def emplace : ClassedEntities Value Area Layer :=
  { data := state.data.setEntry (state.data.addedEntry entity observer isDynamic)
    movingEntities :=
      if isDynamic ∧ (state.data.observedEntities entity.entityId).isNone then
        insert entity.entityId state.movingEntities
      else state.movingEntities
    newest := update state.newest entity.entityId
      (some ((state.newest entity.entityId).getD (.unset entity))) }

def addEntity : ClassedEntities Value Area Layer :=
  let entry := state.data.addedEntry entity observer isDynamic
  let added := state.emplace entity observer isDynamic
  if NavigationData.isProcessed entry entity observer then
    added.processEntityUpdate boxes geometry entry entity none
  else { added with newest := added.hear entity none }

def removeEntity (entity : Nat) : ClassedEntities Value Area Layer :=
  let data := state.data.removeEntity (boxes.fitted geometry) observer entity
  match state.data.observedEntities entity with
  | none => state
  | some entry =>
    if entry.numberOfObservers - 1 = 0 then
      { data := data
        movingEntities :=
          if entry.isMoving then state.movingEntities.erase entity else state.movingEntities
        newest := update state.newest entity none }
    else { state with data := data }

def step : EntityCall Value → ClassedEntities Value Area Layer
  | .addEntity observer entity isDynamic => state.addEntity boxes geometry entity observer isDynamic
  | .removeEntity observer entity => state.removeEntity boxes geometry observer entity
  | .updateEntity observer entity ent =>
    match state.data.observedEntities entity.entityId with
    | some entry =>
      if entity.parent ≠ some domainEntityId then
        state.removeEntity boxes geometry observer entity.entityId
      else state.processEntityUpdate boxes geometry entry entity (some ent)
    | none =>
      if entity.parent = some domainEntityId then
        state.addEntity boxes geometry entity observer true
      else state

/-- Collections agree with each other and what was received. -/
structure Consistent (id : Nat) : Prop where
  moving : id ∈ state.movingEntities ↔
    ∃ entry, state.data.observedEntities id = some entry ∧ entry.isMoving
  areas : (state.data.entityAreas id).isSome ↔ ∃ entry newest,
    state.data.observedEntities id = some entry ∧ entry.isMoving = false ∧
    state.newest id = some newest ∧ newest.Obstacle boxes
  live : ∀ entry, state.data.observedEntities id = some entry → 0 < entry.numberOfObservers

/-- Solid as before, areas kept at rest. -/
def Regular : Prop :=
  entity.solid.getD true = entry.isSolid ∧
    ¬((state.data.entityAreas entity.entityId).isSome ∧
      (boxes.read entry entity ent).1.bbox.data.isSome ∧
      (boxes.read entry entity ent).1.speeds geometry = false ∧
      boxes.buildEntityAreas (boxes.read entry entity ent).1 = none)

/-- Processed ones are regular. -/
def Orderly : EntityCall Value → Prop
  | .addEntity observer entity isDynamic =>
    let entry := state.data.addedEntry entity observer isDynamic
    let added := state.emplace entity observer isDynamic
    if NavigationData.isProcessed entry entity observer then
      added.Regular boxes geometry entry entity none
    else added.hear entity none = added.newest
  | .updateEntity _ entity ent => ∀ entry,
    state.data.observedEntities entity.entityId = some entry →
      entity.parent = some domainEntityId → state.Regular boxes geometry entry entity (some ent)
  | .removeEntity .. => True

end ClassedEntities

namespace EntityEntry

/-- What reading the properties leaves alone. -/
structure Reads (entry read : EntityEntry Value) (hasNewPosition hasNewBbox : Bool) : Prop where
  entityId : read.entityId = entry.entityId
  numberOfObservers : read.numberOfObservers = entry.numberOfObservers
  isMoving : read.isMoving = entry.isMoving
  isIgnored : read.isIgnored = entry.isIgnored
  isSolid : read.isSolid = entry.isSolid
  pos : hasNewPosition = false → read.pos = entry.pos
  bbox : hasNewBbox = false → read.bbox = entry.bbox
  scaled : (entry.bbox.data.isSome → entry.scaledBbox.isSome) → read.bbox.data.isSome →
    read.scaledBbox.isSome

theorem update_eq_of_not {property : TimestampedProperty Value} {isChanged : Bool} {timestamp : Int}
    {found : Option (Option Value)}
    (unchanged : (property.update isChanged timestamp found).2 = false) :
    (property.update isChanged timestamp found).1 = property := by
  unfold TimestampedProperty.update at unchanged ⊢
  grind

theorem reads_read : Reads entry (boxes.read entry entity ent).1 (boxes.read entry entity ent).2.1
    (boxes.read entry entity ent).2.2 where
  entityId := rfl
  numberOfObservers := rfl
  isMoving := rfl
  isIgnored := rfl
  isSolid := rfl
  pos unmoved := update_eq_of_not (Bool.or_eq_false_iff.mp unmoved).1
  bbox unchanged := update_eq_of_not (Bool.or_eq_false_iff.mp unchanged).1
  scaled before there := by
    unfold Boxes.read readProperties at there ⊢
    dsimp only at there ⊢
    split_ifs with hasNewBbox
    · cases found : (entry.bbox.update ((ent.map UpdateAttributes.bbox).getD true)
        entity.lastUpdated entity.bbox).1.data with
      | none => simp [found] at there
      | some bbox => cases (entry.scale.update _ _ _).1.data <;> rfl
    · rw [update_eq_of_not (Bool.or_eq_false_iff.mp (Bool.eq_false_iff.mpr hasNewBbox)).1] at there
      exact before there

end EntityEntry

/-- An area for what rests and can be built. -/
structure Settled (area : Option Area) : Prop where
  area : area.isSome ↔ entry.isMoving = false ∧ (boxes.buildEntityAreas entry).isSome
  ignored : entry.isMoving = false → entry.isIgnored → entry.bbox.data = none
  scaled : entry.bbox.data.isSome → entry.scaledBbox.isSome

theorem isSome_buildEntityAreas_iff : (boxes.buildEntityAreas entry).isSome ↔
    Newest.Obstacle boxes ⟨entry.pos, entry.bbox, entry.isSolid⟩ := by
  unfold Boxes.buildEntityAreas Newest.Obstacle
  cases entry.bbox.data <;> cases entry.pos.data <;> simp

theorem buildEntityAreas_of_none {boxes : Boxes Value Area} {entry : EntityEntry Value}
    (noBox : entry.bbox.data = none) : boxes.buildEntityAreas entry = none := by
  rw [Boxes.buildEntityAreas, noBox]

variable {boxes geometry entry entity ent}

/-- What stays ignored had no box, and has none. -/
theorem EntityEntry.Reads.no_box {read : EntityEntry Value} {hasNewPosition hasNewBbox : Bool}
    {area : Option Area} (reads : entry.Reads read hasNewPosition hasNewBbox)
    (settled : Settled boxes entry area) (wasStill : entry.isMoving = false)
    (isIgnored : (if read.isIgnored ∧ hasNewBbox then read.scaledBbox.isNone
      else read.isIgnored) = true) :
    entry.bbox.data = none ∧ read.bbox.data = none := by
  split_ifs at isIgnored with renewed
  · refine ⟨settled.ignored wasStill (reads.isIgnored.symm.trans renewed.1), ?_⟩
    by_contra there
    have isBox := reads.scaled settled.scaled (Option.isSome_iff_ne_none.mpr there)
    rw [Option.isNone_iff_eq_none.mp isIgnored] at isBox
    cases isBox
  · have before := settled.ignored wasStill (reads.isIgnored.symm.trans isIgnored)
    refine ⟨before, ?_⟩
    rw [reads.bbox (by simpa [isIgnored] using renewed), before]

namespace NavigationData

variable {data changed : NavigationData Value Area Layer}

theorem eraseEntityArea_entityAreas (entity : Nat) :
    (data.eraseEntityArea geometry entity).entityAreas = update data.entityAreas entity none := by
  unfold eraseEntityArea
  cases found : data.entityAreas entity with
  | none => exact (update_eq_self_iff.mpr found.symm).symm
  | some existing => rfl

theorem eraseEntityArea_observedEntities (entity : Nat) :
    (data.eraseEntityArea geometry entity).observedEntities = data.observedEntities := by
  unfold eraseEntityArea
  split <;> rfl

theorem setEntityArea_eq (data : NavigationData Value Area Layer)
    (geometry : Geometry Value Area Layer) (entity : Nat) (area : Area) :
    (data.setEntityArea geometry entity area).observedEntities = data.observedEntities ∧
      ∃ kept, (data.setEntityArea geometry entity area).entityAreas =
        update data.entityAreas entity (some kept) := by
  unfold setEntityArea
  cases found : data.entityAreas entity with
  | none => exact ⟨rfl, area, rfl⟩
  | some existing =>
    dsimp only
    split_ifs
    · exact ⟨rfl, area, rfl⟩
    · exact ⟨rfl, existing, (update_eq_self_iff.mpr found.symm).symm⟩

theorem setEntry_self {id : Nat} (isId : entry.entityId = id) :
    (data.setEntry entry).observedEntities id = some entry :=
  isId ▸ update_self ..

theorem setEntry_of_ne {id other : Nat} (isId : entry.entityId = id) (isOther : other ≠ id) :
    (data.setEntry entry).observedEntities other = data.observedEntities other :=
  update_of_ne (isId ▸ isOther) ..

/-- A processed entry and its area. -/
structure Processed (boxes : Boxes Value Area) (data after : NavigationData Value Area Layer)
    (entry read final : EntityEntry Value) (starts : Bool) : Prop where
  observedEntities : after.observedEntities = update data.observedEntities entry.entityId final
  entityAreas : ∃ area, after.entityAreas = update data.entityAreas entry.entityId area ∧
    Settled boxes final area
  entityId : final.entityId = entry.entityId
  numberOfObservers : final.numberOfObservers = entry.numberOfObservers
  isMoving : final.isMoving = (entry.isMoving || starts)
  pos : final.pos = read.pos
  bbox : final.bbox = read.bbox
  isSolid : final.isSolid = entry.isSolid

theorem Processed.of_setEntry {read final : EntityEntry Value}
    {hasNewPosition hasNewBbox starts : Bool} {area : Option Area}
    (reads : entry.Reads read hasNewPosition hasNewBbox)
    (observed : changed.observedEntities = data.observedEntities)
    (areas : changed.entityAreas = update data.entityAreas entry.entityId area)
    (same : final = { read with isIgnored := final.isIgnored, isMoving := final.isMoving })
    (isMoving : final.isMoving = (entry.isMoving || starts)) (settled : Settled boxes final area) :
    Processed boxes data (changed.setEntry final) entry read final starts := by
  have entityId : final.entityId = entry.entityId := by rw [same, reads.entityId]
  exact
    { observedEntities := by rw [setEntry, entityId, observed]
      entityAreas := ⟨area, areas, settled⟩
      entityId := entityId
      numberOfObservers := by rw [same, reads.numberOfObservers]
      isMoving := isMoving
      pos := by rw [same]
      bbox := by rw [same]
      isSolid := by rw [same, reads.isSolid] }

/-- As `processEntityUpdate` branches. -/
theorem processEntityUpdate_processed
    (settled : Settled boxes entry (data.entityAreas entry.entityId))
    (keeps : ¬((data.entityAreas entry.entityId).isSome ∧
      (boxes.read entry entity ent).1.bbox.data.isSome ∧
      (boxes.read entry entity ent).1.speeds geometry = false ∧
      boxes.buildEntityAreas (boxes.read entry entity ent).1 = none)) :
    ∃ final, Processed boxes data
      (data.processEntityUpdate (boxes.fitted geometry) entry entity ent entity.lastUpdated) entry
      (boxes.read entry entity ent).1 final (boxes.startsMoving geometry entry entity ent) := by
  have reads := EntityEntry.reads_read boxes entry entity ent
  have isRead : entry.readProperties (boxes.fitted geometry).scaledBbox entity ent
      entity.lastUpdated = boxes.read entry entity ent := rfl
  unfold processEntityUpdate Boxes.startsMoving
  rw [isRead]
  generalize boxes.read entry entity ent = result at reads keeps ⊢
  obtain ⟨read, hasNewPosition, hasNewBbox⟩ := result
  dsimp only at reads keeps ⊢
  have scaled := reads.scaled settled.scaled
  have unchanged := (update_eq_self entry.entityId data.entityAreas).symm
  have erased : (data.eraseEntityArea (boxes.fitted geometry) read.entityId).entityAreas =
      update data.entityAreas entry.entityId none := by
    rw [eraseEntityArea_entityAreas, reads.entityId]
  cases moving : read.isMoving with
  | true =>
    have wasMoving := reads.isMoving.symm.trans moving
    rw [if_pos rfl]
    refine ⟨read, .of_setEntry reads rfl unchanged rfl (by simp [moving, wasMoving])
      ⟨?_, by simp [moving], scaled⟩⟩
    rw [settled.area, wasMoving, moving]
    simp
  | false =>
    have wasStill : entry.isMoving = false := reads.isMoving.symm.trans moving
    rw [if_neg Bool.false_ne_true]
    generalize isIgnored : (if read.isIgnored ∧ hasNewBbox then read.scaledBbox.isNone
      else read.isIgnored) = ignored
    cases ignored with
    | true =>
      have noBox := reads.no_box settled wasStill isIgnored
      rw [if_pos rfl]
      refine ⟨_, .of_setEntry reads rfl unchanged rfl (by simp [wasStill])
        ⟨?_, fun _ _ => noBox.2, scaled⟩⟩
      rw [settled.area, buildEntityAreas_of_none noBox.1, buildEntityAreas_of_none
        (by exact noBox.2)]
      simp
    | false =>
      rw [if_neg Bool.false_ne_true]
      cases box : read.bbox.data with
      | none =>
        rw [Option.isNone_none, if_pos rfl]
        refine ⟨_, .of_setEntry reads (eraseEntityArea_observedEntities _) erased rfl
          (by simp [wasStill])
          ⟨iff_of_false Bool.false_ne_true fun isBuilt => ?_, fun _ _ => box, scaled⟩⟩
        have isSome := isBuilt.2
        rw [buildEntityAreas_of_none (by exact box)] at isSome
        cases isSome
      | some bbox =>
        rw [Option.isNone_some, if_neg Bool.false_ne_true]
        cases renewed : hasNewPosition || hasNewBbox with
        | false =>
          obtain ⟨samePos, sameBox⟩ := Bool.or_eq_false_iff.mp renewed
          refine ⟨_, .of_setEntry reads rfl unchanged rfl (by simp [wasStill])
            ⟨?_, fun _ ignores => (Bool.false_ne_true ignores).elim, scaled⟩⟩
          rw [settled.area, wasStill, isSome_buildEntityAreas_iff, isSome_buildEntityAreas_iff]
          dsimp only
          rw [reads.pos samePos, reads.bbox sameBox, reads.isSolid]
        | true =>
          rw [if_pos rfl]
          cases speeds : read.speeds geometry with
          | true =>
            rw [if_pos (by exact speeds)]
            exact ⟨_, .of_setEntry reads (eraseEntityArea_observedEntities _) erased rfl
              (by simp) ⟨by simp, nofun, scaled⟩⟩
          | false =>
            rw [if_neg (by exact Bool.eq_false_iff.mp speeds)]
            split
            next notBuilt =>
              have noArea : data.entityAreas entry.entityId = none := by
                by_contra there
                exact keeps ⟨Option.isSome_iff_ne_none.mpr there, by simp [box], speeds, notBuilt⟩
              refine ⟨_, .of_setEntry reads rfl unchanged rfl (by simp [wasStill])
                ⟨?_, nofun, scaled⟩⟩
              rw [noArea]
              exact iff_of_false Bool.false_ne_true fun isBuilt =>
                absurd notBuilt (Option.isSome_iff_ne_none.mp isBuilt.2)
            next area isBuilt =>
              obtain ⟨observed, kept, areas⟩ :=
                data.setEntityArea_eq (boxes.fitted geometry) read.entityId area
              exact ⟨_, .of_setEntry reads observed (areas.trans (by rw [reads.entityId])) rfl
                (by simp [wasStill])
                ⟨iff_of_true rfl ⟨rfl, Option.isSome_iff_exists.mpr ⟨area, isBuilt⟩⟩, nofun,
                  scaled⟩⟩

end NavigationData

namespace ClassedEntities

open NavigationData

variable {domainEntityId observer : Nat} {isDynamic : Bool}
  {state after : ClassedEntities Value Area Layer} {id : Nat}

/-- An entry has what is known about its entity. -/
structure Known (boxes : Boxes Value Area) (state : ClassedEntities Value Area Layer) (id : Nat)
    (entry : EntityEntry Value) : Prop where
  entityId : entry.entityId = id
  live : 0 < entry.numberOfObservers
  moving : id ∈ state.movingEntities ↔ entry.isMoving
  newest : state.newest id = some ⟨entry.pos, entry.bbox, entry.isSolid⟩
  settled : Settled boxes entry (state.data.entityAreas id)

def Sorted (boxes : Boxes Value Area) (state : ClassedEntities Value Area Layer) (id : Nat) :
    Prop :=
  match state.data.observedEntities id with
  | none => id ∉ state.movingEntities ∧ state.data.entityAreas id = none ∧ state.newest id = none
  | some entry => state.Known boxes id entry

theorem sorted_of_some (found : state.data.observedEntities id = some entry) :
    state.Sorted boxes id ↔ state.Known boxes id entry := by
  rw [Sorted, found]

theorem sorted_of_none (unseen : state.data.observedEntities id = none) :
    state.Sorted boxes id ↔ id ∉ state.movingEntities ∧ state.data.entityAreas id = none ∧
      state.newest id = none := by
  rw [Sorted, unseen]

theorem consistent_of_sorted (sorted : state.Sorted boxes id) : state.Consistent boxes id := by
  cases found : state.data.observedEntities id with
  | none =>
    obtain ⟨atRest, noArea, unknown⟩ := (sorted_of_none found).mp sorted
    exact ⟨by simp [found, atRest], by simp [found, noArea], by simp [found]⟩
  | some entry =>
    have known := (sorted_of_some found).mp sorted
    refine ⟨by simp [found, known.moving], ?_, by simp [found, known.live]⟩
    rw [known.settled.area, isSome_buildEntityAreas_iff]
    simp [found, known.newest]

theorem Sorted.congr (sorted : state.Sorted boxes id)
    (observed : after.data.observedEntities id = state.data.observedEntities id)
    (areas : after.data.entityAreas id = state.data.entityAreas id)
    (moving : id ∈ after.movingEntities ↔ id ∈ state.movingEntities)
    (newest : after.newest id = state.newest id) : after.Sorted boxes id := by
  cases found : state.data.observedEntities id with
  | none =>
    rw [sorted_of_none (observed.trans found), areas, newest, moving]
    exact (sorted_of_none found).mp sorted
  | some entry =>
    have known := (sorted_of_some found).mp sorted
    exact (sorted_of_some (observed.trans found)).mpr ⟨known.entityId, known.live,
      moving.trans known.moving, newest.trans known.newest, areas ▸ known.settled⟩

theorem mem_ite_insert {condition : Prop} [Decidable condition] {entities : Finset Nat}
    {other : Nat} :
    other ∈ (if condition then insert id entities else entities) ↔
      other ∈ entities ∨ condition ∧ other = id := by
  split_ifs with holds <;> simp [holds, or_comm]

theorem sorted_processEntityUpdate (sorted : ∀ id, state.Sorted boxes id)
    (found : state.data.observedEntities entity.entityId = some entry)
    (regular : state.Regular boxes geometry entry entity ent) :
    (state.processEntityUpdate boxes geometry entry entity ent).Sorted boxes id := by
  have known := (sorted_of_some found).mp (sorted entity.entityId)
  obtain ⟨solid, keeps⟩ := regular
  have settled := known.settled
  rw [← known.entityId] at settled keeps
  obtain ⟨final, processed⟩ := processEntityUpdate_processed settled keeps
  obtain ⟨area, areas, finalSettled⟩ := processed.entityAreas
  have observed := processed.observedEntities
  rw [known.entityId] at areas observed
  by_cases isEntity : id = entity.entityId
  · subst isEntity
    refine (sorted_of_some ((congrFun observed _).trans (update_self ..))).mpr
      { entityId := processed.entityId.trans known.entityId
        live := processed.numberOfObservers ▸ known.live
        moving := ?_
        newest := ?_
        settled := ?_ }
    · refine mem_ite_insert.trans ?_
      rw [known.moving, processed.isMoving, Bool.or_eq_true, and_iff_left rfl]
    · refine (update_self ..).trans ?_
      rw [known.newest, processed.pos, processed.bbox, processed.isSolid, ← solid]
      rfl
    · exact ((congrFun areas _).trans (update_self ..)).symm ▸ finalSettled
  · exact (sorted id).congr ((congrFun observed _).trans (update_of_ne isEntity ..))
      ((congrFun areas _).trans (update_of_ne isEntity ..))
      (mem_ite_insert.trans (or_iff_left fun inserted => isEntity inserted.2))
      (update_of_ne isEntity ..)

theorem addedEntry_eq (data : NavigationData Value Area Layer) (entity : MemEntity Value)
    (observer : Nat) (isDynamic : Bool) :
    ∃ owned, data.addedEntry entity observer isDynamic =
      match data.observedEntities entity.entityId with
      | none => { newEntry entity isDynamic with isActorOwned := owned }
      | some entry =>
        { entry with
          numberOfObservers := entry.numberOfObservers + 1, isActorOwned := owned } := by
  unfold addedEntry
  cases data.observedEntities entity.entityId <;> dsimp only <;> split
  · exact ⟨true, rfl⟩
  · exact ⟨_, rfl⟩
  · exact ⟨true, rfl⟩
  · exact ⟨_, rfl⟩

theorem known_emplace (observer : Nat) (isDynamic : Bool)
    (sorted : state.Sorted boxes entity.entityId) :
    Known boxes (state.emplace entity observer isDynamic) entity.entityId
      (state.data.addedEntry entity observer isDynamic) := by
  obtain ⟨owned, isAdded⟩ := addedEntry_eq state.data entity observer isDynamic
  cases found : state.data.observedEntities entity.entityId with
  | none =>
    obtain ⟨atRest, noArea, unknown⟩ := (sorted_of_none found).mp sorted
    rw [found] at isAdded
    rw [isAdded]
    refine ⟨rfl, Int.one_pos, mem_ite_insert.trans ?_, (update_self ..).trans ?_,
      ⟨?_, fun _ _ => rfl, nofun⟩⟩
    · simp [atRest, found, newEntry]
    · rw [unknown]
      rfl
    · change (state.data.entityAreas entity.entityId).isSome ↔ _
      rw [noArea, buildEntityAreas_of_none rfl]
      simp
  | some entry =>
    have known := (sorted_of_some found).mp sorted
    rw [found] at isAdded
    rw [isAdded]
    refine ⟨known.entityId, Int.add_pos known.live Int.one_pos, mem_ite_insert.trans ?_,
      (update_self ..).trans ?_, known.settled.area, known.settled.ignored, known.settled.scaled⟩
    · simp [known.moving, found]
    · rw [known.newest]
      rfl

theorem sorted_emplace (sorted : ∀ id, state.Sorted boxes id) (id : Nat) :
    (state.emplace entity observer isDynamic).Sorted boxes id := by
  have known := known_emplace observer isDynamic (sorted entity.entityId)
  by_cases isEntity : id = entity.entityId
  · subst isEntity
    exact (sorted_of_some (setEntry_self known.entityId)).mpr known
  · exact (sorted id).congr (setEntry_of_ne known.entityId isEntity) rfl
      (mem_ite_insert.trans (or_iff_left fun inserted => isEntity inserted.2))
      (update_of_ne isEntity ..)

theorem sorted_addEntity (sorted : ∀ id, state.Sorted boxes id)
    (orderly : state.Orderly boxes geometry domainEntityId (.addEntity observer entity isDynamic))
    (id : Nat) : (state.addEntity boxes geometry entity observer isDynamic).Sorted boxes id := by
  have known := known_emplace observer isDynamic (sorted entity.entityId)
  unfold Orderly at orderly
  unfold addEntity
  dsimp only at orderly ⊢
  split_ifs at orderly ⊢
  · exact sorted_processEntityUpdate (sorted_emplace sorted) (setEntry_self known.entityId) orderly
  · rw [orderly]
    exact sorted_emplace sorted id

theorem sorted_removeEntity (sorted : ∀ id, state.Sorted boxes id) (observer entity id : Nat) :
    (state.removeEntity boxes geometry observer entity).Sorted boxes id := by
  unfold removeEntity NavigationData.removeEntity
  cases found : state.data.observedEntities entity with
  | none => exact sorted id
  | some entry =>
    have known := (sorted_of_some found).mp (sorted entity)
    dsimp only
    by_cases last : entry.numberOfObservers - 1 = 0
    · rw [if_pos last, if_pos last]
      by_cases isEntity : id = entity
      · subst isEntity
        refine (sorted_of_none (update_self ..)).mpr
          ⟨?_, (congrFun (eraseEntityArea_entityAreas _) _).trans (update_self ..), update_self ..⟩
        dsimp only
        split_ifs with isMoving
        · exact Finset.notMem_erase id _
        · exact isMoving ∘ known.moving.mp
      · refine (sorted id).congr ?_ ?_ ?_ (update_of_ne isEntity ..)
        · dsimp only
          rw [update_of_ne isEntity, eraseEntityArea_observedEntities]
        · dsimp only
          rw [eraseEntityArea_entityAreas, update_of_ne isEntity]
        · dsimp only
          split_ifs
          · exact Finset.mem_erase.trans (and_iff_right isEntity)
          · exact Iff.rfl
    · rw [if_neg last, if_neg last]
      obtain ⟨owned, isLeft⟩ : ∃ owned : Bool, (if observer = entity then { entry with
            numberOfObservers := entry.numberOfObservers - 1, isActorOwned := false }
          else { entry with numberOfObservers := entry.numberOfObservers - 1 }) =
          { entry with
            numberOfObservers := entry.numberOfObservers - 1, isActorOwned := owned } := by
        split_ifs
        · exact ⟨false, rfl⟩
        · exact ⟨_, rfl⟩
      rw [isLeft]
      by_cases isEntity : id = entity
      · subst isEntity
        have live := known.live
        refine (sorted_of_some (setEntry_self (by exact known.entityId))).mpr ?_
        refine ⟨known.entityId, ?_, known.moving, known.newest, known.settled.area,
          known.settled.ignored, known.settled.scaled⟩
        dsimp only
        omega
      · exact (sorted id).congr (setEntry_of_ne known.entityId isEntity) rfl Iff.rfl rfl

/-- A new entry has no area to lose. -/
theorem orderly_of_none (found : state.data.observedEntities entity.entityId = none)
    (noArea : state.data.entityAreas entity.entityId = none) :
    state.Orderly boxes geometry domainEntityId (.addEntity observer entity isDynamic) := by
  obtain ⟨owned, isAdded⟩ := addedEntry_eq state.data entity observer isDynamic
  have isNew : isProcessed (state.data.addedEntry entity observer isDynamic) entity observer := by
    by_cases own : entity.entityId = observer <;>
      simp [isProcessed, addedEntry, found, own, newEntry]
  rw [found] at isAdded
  unfold Orderly
  dsimp only
  rw [if_pos isNew, isAdded]
  refine ⟨rfl, fun loses => ?_⟩
  have noMore : (state.data.entityAreas entity.entityId).isSome := loses.1
  rw [noArea] at noMore
  cases noMore

theorem sorted_step (sorted : ∀ id, state.Sorted boxes id) (call : EntityCall Value)
    (orderly : state.Orderly boxes geometry domainEntityId call) (id : Nat) :
    (state.step boxes geometry domainEntityId call).Sorted boxes id := by
  cases call with
  | addEntity observer entity isDynamic => exact sorted_addEntity sorted orderly id
  | removeEntity observer entity => exact sorted_removeEntity sorted observer entity id
  | updateEntity observer entity ent =>
    unfold step
    dsimp only
    cases found : state.data.observedEntities entity.entityId with
    | none =>
      dsimp only
      split_ifs
      · have noArea := ((sorted_of_none found).mp (sorted entity.entityId)).2.1
        exact sorted_addEntity sorted (orderly_of_none found noArea : state.Orderly boxes geometry
          domainEntityId (.addEntity observer entity true)) id
      · exact sorted id
    | some entry =>
      dsimp only
      split_ifs with away
      · exact sorted_removeEntity sorted observer entity.entityId id
      · exact sorted_processEntityUpdate sorted found (orderly entry found (not_not.mp away))

/-- In runs of orderly events each entity is in the collection that its newest properties call for.
-/
theorem run_consistent (boxes : Boxes Value Area) (geometry : Geometry Value Area Layer)
    (domainEntityId desiredTilesAmount : Nat) (calls : List (EntityCall Value))
    (orderly : Admissible (step boxes geometry domainEntityId)
      (Orderly boxes geometry domainEntityId) (initial desiredTilesAmount) calls) (id : Nat) :
    (run (step boxes geometry domainEntityId) (initial desiredTilesAmount) calls).Consistent
      boxes id :=
  consistent_of_sorted (run_invariant (fun state => ∀ id, state.Sorted boxes id)
    (fun _ call sorted => sorted_step sorted call)
    (fun _ => ⟨Finset.notMem_empty _, rfl, rfl⟩) orderly id)

/-- A box is as high as its number. -/
def blocks : Boxes Int Int where
  height := fun bbox => bbox
  stepHeight := 2
  scaled := fun bbox scale => bbox * scale
  rotBox := fun pos _ _ => pos

def block (lastUpdated position bbox : Int) : MemEntity Int :=
  { Navigated.bridgeEntity with
    lastUpdated := lastUpdated, position := some (some position), bbox := some (some bbox) }

/-- A block of this height, and another. -/
def changedBlock (bbox : Int) : List (EntityCall Int) :=
  [.addEntity 3 (block 1 0 4) false, .updateEntity 3 (block 2 0 bbox)
    { pos := true, velocity := true, orientation := true, angular := true, bbox := true,
      scale := true }]

theorem run_consistent_block : (run (step blocks Navigated.bridge 9) (initial 1)
    (changedBlock 3)).Consistent blocks 1 :=
  run_consistent blocks Navigated.bridge 9 1 (changedBlock 3) (by
    refine ⟨orderly_of_none rfl rfl, fun entry found _ => ?_, trivial⟩
    obtain rfl := Option.some.inj found
    exact ⟨rfl, fun loses => absurd loses.2.2.2 (by decide +kernel)⟩) 1

/-- A box becomes too low, and the area stays. -/
theorem low_box_keeps_area :
    ¬∀ calls, (run (step blocks Navigated.bridge 9) (initial 1) calls).Consistent blocks 1 := by
  intro always
  obtain ⟨entry, newest, -, -, isNewest, -, -, bbox, isBox, high⟩ :=
    (always (changedBlock 1)).areas.mp (by decide +kernel)
  have isLow : ((run (step blocks Navigated.bridge 9) (initial 1)
      (changedBlock 1)).newest 1).map (·.bbox.data) = some (some 1) := by decide +kernel
  rw [isNewest, Option.map_some, isBox] at isLow
  cases isLow
  exact absurd high (by decide +kernel)

end ClassedEntities

end Cyphesis.Navigation
