import Cyphesis.Foundation.Run
import Cyphesis.Simulation.WorkLists

/-!
# Runs of the work lists

Each flag says whether the entry is in its list, where it is once, in every state of a run.
-/

namespace Cyphesis.Simulation

open Cyphesis.Foundation List Option

/-- A list of what a flag is set for. -/
def Listed {ι : Type} (flag : ι → Bool) (list : List ι) : Prop :=
  list.Nodup ∧ ∀ id, id ∈ list ↔ flag id = true

namespace Listed

variable {ι : Type} [DecidableEq ι] {flag : ι → Bool} {list : List ι}

variable {changed : ι → Bool}

section

variable (listed : Listed flag list)

include listed

theorem append {id : ι} (unset : flag id = false)
    (isSet : ∀ other, changed other = if other = id then true else flag other) :
    Listed changed (list ++ [id]) := by
  have absent : id ∉ list := by
    rw [listed.2, unset]
    exact Bool.false_ne_true
  constructor
  · rw [nodup_append]
    refine ⟨listed.1, nodup_singleton id, ?_⟩
    rintro other member last isLast rfl
    rw [mem_singleton] at isLast
    exact absent (isLast ▸ member)
  · intro other
    rw [mem_append, mem_singleton, listed.2, isSet]
    by_cases same : other = id
    · simp [same]
    · simp [same]

theorem remove {id : ι}
    (cleared : ∀ other, changed other = if other = id then false else flag other) :
    Listed changed (if flag id = true then removeAndShift id list else list) := by
  split
  · have isPerm := removeAndShift_perm id list
    refine ⟨isPerm.nodup_iff.mpr (listed.1.erase id), ?_⟩
    intro other
    rw [isPerm.mem_iff, listed.1.mem_erase_iff, listed.2, cleared]
    by_cases same : other = id
    · simp [same]
    · simp [same]
  · next unset =>
      refine ⟨listed.1, fun other => ?_⟩
      rw [listed.2, cleared]
      by_cases same : other = id
      · simp [same, unset]
      · simp [same]

theorem drop (count : Nat)
    (cleared : ∀ other, changed other = if other ∈ list.take count then false else flag other) :
    Listed changed (list.drop count) := by
  have nodup := listed.1
  rw [← take_append_drop count list, nodup_append] at nodup
  refine ⟨nodup.2.1, fun other => ?_⟩
  rw [cleared]
  by_cases taken : other ∈ list.take count
  · rw [if_pos taken]
    simp only [Bool.false_eq_true, iff_false]
    exact fun left => nodup.2.2 other taken other left rfl
  · rw [if_neg taken, ← listed.2]
    constructor
    · exact mem_of_mem_drop
    · intro member
      rw [← take_append_drop count list, mem_append] at member
      exact member.resolve_left taken

end

end Listed

namespace WorkLists

variable {ι τ : Type} [DecidableEq ι] [DecidableEq τ] {domain : WorkLists ι τ}

/-- Each flag says what is in its list. -/
structure Consistent (domain : WorkLists ι τ) : Prop where
  moving : Listed (domain.flag BulletEntry.addedToMovingList) domain.movingEntities
  queue : Listed (domain.flag BulletEntry.markedForVisibilityRecalculation)
    domain.visibilityRecalculateQueue

section Flags

omit [DecidableEq τ]

variable (domain) (id : ι) (change : BulletEntry ι τ → BulletEntry ι τ)
  {isSet : BulletEntry ι τ → Bool}

theorem flag_modify_self :
    (domain.modify id change).flag isSet id = (domain.entries id).any fun entry =>
      isSet (change entry) := by
  rw [flag, modify]
  dsimp only
  rw [if_pos rfl]
  cases domain.entries id <;> rfl

theorem flag_modify_of_ne {other : ι} (different : other ≠ id) :
    (domain.modify id change).flag isSet other = domain.flag isSet other := by
  rw [flag, modify]
  dsimp only
  rw [if_neg different, flag]

theorem flag_modify_of_same (same : ∀ entry, isSet (change entry) = isSet entry) :
    (domain.modify id change).flag isSet = domain.flag isSet := by
  funext other
  by_cases isId : other = id
  · subst isId
    rw [flag_modify_self, flag]
    simp only [same]
  · exact domain.flag_modify_of_ne id change isId

omit [DecidableEq ι] in
theorem flag_eq {entry : BulletEntry ι τ} (isEntry : domain.entries id = some entry) :
    domain.flag isSet id = isSet entry := by
  rw [flag, isEntry, any_some]

theorem flag_modify_eq {value : Bool} (exists_ : (domain.entries id).isSome)
    (isValue : ∀ entry, isSet (change entry) = value) (other : ι) :
    (domain.modify id change).flag isSet other =
      if other = id then value else domain.flag isSet other := by
  split
  · next same =>
      subst same
      rw [flag_modify_self]
      obtain ⟨entry, isEntry⟩ := Option.isSome_iff_exists.mp exists_
      rw [isEntry, any_some, isValue]
  · next different => exact domain.flag_modify_of_ne id change different

end Flags

namespace Consistent

omit [DecidableEq τ] in
theorem modify (consistent : Consistent domain) (id : ι)
    {change : BulletEntry ι τ → BulletEntry ι τ}
    (moving : ∀ entry, (change entry).addedToMovingList = entry.addedToMovingList)
    (queue : ∀ entry, (change entry).markedForVisibilityRecalculation =
      entry.markedForVisibilityRecalculation) :
    Consistent (domain.modify id change) := by
  constructor
  · rw [flag_modify_of_same domain id change moving]
    exact consistent.moving
  · rw [flag_modify_of_same domain id change queue]
    exact consistent.queue

omit [DecidableEq τ] in
theorem startMoving (consistent : Consistent domain) (id : ι) :
    Consistent (domain.startMoving id) := by
  rw [WorkLists.startMoving]
  cases isEntry : domain.entries id with
  | none => exact consistent
  | some entry =>
    have exists_ : (domain.entries id).isSome := by simp [isEntry]
    cases added : entry.addedToMovingList with
    | true => simpa [added] using consistent
    | false =>
      simp only [added, Bool.false_eq_true, if_false]
      constructor
      · change Listed _ (domain.movingEntities ++ [id])
        apply consistent.moving.append
        · rw [flag_eq domain id isEntry, added]
        · exact flag_modify_eq _ id _ exists_ fun _ => rfl
      · rw [flag_modify_of_same]
        · exact consistent.queue
        · exact fun _ => rfl

omit [DecidableEq τ] in
theorem markForVisibility (consistent : Consistent domain) (id : ι) :
    Consistent (domain.markForVisibility id) := by
  rw [WorkLists.markForVisibility]
  cases isEntry : domain.entries id with
  | none => exact consistent
  | some entry =>
    have exists_ : (domain.entries id).isSome := by simp [isEntry]
    cases marked : entry.markedForVisibilityRecalculation with
    | true => simpa [marked] using consistent
    | false =>
      simp only [marked, Bool.false_eq_true, if_false]
      constructor
      · rw [flag_modify_of_same]
        · exact consistent.moving
        · exact fun _ => rfl
      · change Listed _ (domain.visibilityRecalculateQueue ++ [id])
        apply consistent.queue.append
        · rw [flag_eq domain id isEntry, marked]
        · exact flag_modify_eq _ id _ exists_ fun _ => rfl

theorem setWorldTransform (consistent : Consistent domain) (id : ι) (transform : τ) :
    Consistent (domain.setWorldTransform id transform) := by
  rw [WorkLists.setWorldTransform]
  split
  · exact consistent
  split
  · exact consistent
  · have moved : Consistent (domain.modify id fun entry =>
        { entry with lastTransform := transform }) :=
      consistent.modify id (fun _ => rfl) (fun _ => rfl)
    apply markForVisibility
    exact (moved.startMoving id).modify id (fun _ => rfl) (fun _ => rfl)

omit [DecidableEq τ] in
theorem addToWater (consistent : Consistent domain) (water other : ι) :
    Consistent (domain.addToWater water other) := by
  apply startMoving
  exact consistent.modify other (fun _ => rfl) (fun _ => rfl)

omit [DecidableEq τ] in
theorem removeFromWater (consistent : Consistent domain) (water other : ι) :
    Consistent (domain.removeFromWater water other) := by
  rw [WorkLists.removeFromWater]
  split
  · exact consistent
  split
  · apply startMoving
    exact consistent.modify other (fun _ => rfl) (fun _ => rfl)
  · exact consistent

omit [DecidableEq ι] [DecidableEq τ] in
theorem withWater {inWater : WorkLists ι τ → ι → ι → WorkLists ι τ}
    (keeps : ∀ water other, Consistent (inWater domain water other))
    (consistent : Consistent domain) (first second : ι) :
    Consistent (WorkLists.withWater inWater domain first second) := by
  rw [WorkLists.withWater]
  split
  · split
    · exact consistent
    · exact keeps first second
  split
  · exact keeps second first
  · exact consistent

omit [DecidableEq τ] in
theorem transformed (consistent : Consistent domain) (id : ι) :
    Consistent (domain.transformed id) := by
  rw [WorkLists.transformed]
  split
  · apply run_invariant_of_step Consistent _ consistent
    intro domain child consistent
    split
    · exact consistent.startMoving child
    · exact consistent
  · exact consistent

section

variable (consistent : Consistent domain)

include consistent

theorem apply (change : WorkChange ι τ) : Consistent (domain.apply change) := by
  cases change with
  | setWorldTransform id transform => exact consistent.setWorldTransform id transform
  | addOverlappingPair first second =>
    exact withWater consistent.addToWater consistent first second
  | removeOverlappingPair first second =>
    exact withWater consistent.removeFromWater consistent first second
  | applyNewPosition id => exact consistent.markForVisibility id
  | transformed id => exact consistent.transformed id
  | turned id => exact consistent.startMoving id
  | resized id => exact consistent.markForVisibility id

theorem applyAll (changes : List (WorkChange ι τ)) : Consistent (domain.applyAll changes) :=
  run_invariant_of_step Consistent (fun _ change consistent => consistent.apply change) consistent
    changes

theorem addEntity (id : ι) (isWaterBody hasCollisionObject : Bool)
    (mode : Mode) (transform : τ) (changes : List (WorkChange ι τ)) :
    Consistent (domain.addEntity id isWaterBody hasCollisionObject mode transform changes) := by
  rw [WorkLists.addEntity]
  split
  · exact consistent
  · next isNew =>
      rw [Bool.not_eq_true, isSome_eq_false_iff, isNone_iff_eq_none] at isNew
      -- The flags of the new entry are not set, nor were they before.
      have sameFlag : ∀ (isSet : BulletEntry ι τ → Bool) (entry : BulletEntry ι τ)
          (order : List ι), isSet entry = false →
          WorkLists.flag { domain with
            entries := fun other => if other = id then some entry else domain.entries other
            order := order } isSet = domain.flag isSet := by
        intro isSet entry order unset
        funext other
        rw [WorkLists.flag, WorkLists.flag]
        dsimp only
        split
        · next same => rw [same, isNew, any_some, unset, any_none]
        · rfl
      apply applyAll
      constructor
      · rw [sameFlag _ _ _ rfl]
        exact consistent.moving
      · rw [sameFlag _ _ _ rfl]
        exact consistent.queue

theorem removeEntity (id : ι)
    (reported changes : List (WorkChange ι τ)) :
    Consistent (domain.removeEntity id reported changes) := by
  rw [WorkLists.removeEntity]
  split
  · exact consistent
  · have removed := consistent.applyAll reported
    apply applyAll
    constructor
    · apply removed.moving.remove
      intro other
      by_cases same : other = id
      · simp [WorkLists.flag, same]
      · simp [WorkLists.flag, same]
    · apply removed.queue.remove
      intro other
      by_cases same : other = id
      · simp [WorkLists.flag, same]
      · simp [WorkLists.flag, same]

theorem applyMode (id : ι) (mode : Mode)
    (reported : List (WorkChange ι τ)) : Consistent (domain.applyMode id mode reported) := by
  rw [WorkLists.applyMode]
  split
  · exact consistent
  split
  · apply startMoving
    exact ((consistent.markForVisibility id).applyAll reported).modify id (fun _ => rfl)
      (fun _ => rfl)
  · exact consistent.startMoving id

end

end Consistent

section Visibility

omit [DecidableEq τ]

variable {isSet : BulletEntry ι τ → Bool} {change : BulletEntry ι τ → BulletEntry ι τ}

theorem flag_foldl_modify (isCleared : ∀ entry, isSet (change entry) = false)
    (ids : List ι) (domain : WorkLists ι τ) (other : ι) :
    (ids.foldl (fun domain id => domain.modify id change) domain).flag isSet other =
      if other ∈ ids then false else domain.flag isSet other := by
  induction ids generalizing domain with
  | nil => rfl
  | cons id ids ih =>
    rw [foldl_cons, ih]
    by_cases later : other ∈ ids
    · simp [later]
    · by_cases same : other = id
      · subst same
        rw [if_neg later, if_pos mem_cons_self, flag_modify_self]
        simp [isCleared]
      · rw [if_neg later, if_neg (by simp [same, later]), flag_modify_of_ne _ _ _ same]

theorem flag_foldl_modify_of_same (same : ∀ entry, isSet (change entry) = isSet entry)
    (ids : List ι) (domain : WorkLists ι τ) :
    (ids.foldl (fun domain id => domain.modify id change) domain).flag isSet =
      domain.flag isSet := by
  induction ids generalizing domain with
  | nil => rfl
  | cons id ids ih => rw [foldl_cons, ih, flag_modify_of_same _ _ _ same]

theorem lists_foldl_modify (change : BulletEntry ι τ → BulletEntry ι τ) (ids : List ι)
    (domain : WorkLists ι τ) :
    (ids.foldl (fun domain id => domain.modify id change) domain).movingEntities =
        domain.movingEntities ∧
      (ids.foldl (fun domain id => domain.modify id change) domain).visibilityRecalculateQueue =
        domain.visibilityRecalculateQueue := by
  induction ids generalizing domain with
  | nil => exact ⟨rfl, rfl⟩
  | cons id ids ih => exact ih (domain.modify id change)

theorem Consistent.updateVisibilityOfDirtyEntities (consistent : Consistent domain) :
    Consistent domain.updateVisibilityOfDirtyEntities := by
  have lists := lists_foldl_modify
    (fun entry : BulletEntry ι τ => { entry with markedForVisibilityRecalculation := false })
    (domain.visibilityRecalculateQueue.take visibilityCheckMaxEntries) domain
  constructor
  · rw [WorkLists.updateVisibilityOfDirtyEntities]
    change Listed (WorkLists.flag (List.foldl _ domain _) _) (List.foldl _ domain _).movingEntities
    rw [lists.1, flag_foldl_modify_of_same]
    · exact consistent.moving
    · exact fun _ => rfl
  · rw [WorkLists.updateVisibilityOfDirtyEntities]
    change Listed (WorkLists.flag (List.foldl _ domain _) _)
      ((List.foldl _ domain _).visibilityRecalculateQueue.drop _)
    rw [lists.2]
    exact consistent.queue.drop _ (flag_foldl_modify (fun _ => rfl) _ domain)

section

variable (consistent : Consistent domain) (isInside : ι → ι → Option Bool)

include consistent

theorem Consistent.testEntityIsSubmerged (id water : ι) :
    Consistent (domain.testEntityIsSubmerged isInside id water) := by
  have left : Consistent (if water = id then
      domain.modify id fun entry => { entry with waterNearby := none } else domain) := by
    split
    · exact consistent.modify id (fun _ => rfl) (fun _ => rfl)
    · exact consistent
  rw [WorkLists.testEntityIsSubmerged]
  split
  · split
    · exact left
    · apply Consistent.startMoving
      exact left.modify id (fun _ => rfl) (fun _ => rfl)
  · split
    · apply Consistent.startMoving
      exact left.modify id (fun _ => rfl) (fun _ => rfl)
    · exact left
  · exact left

theorem Consistent.processWaterBodies : Consistent (domain.processWaterBodies isInside) := by
  apply run_invariant_of_step Consistent _ consistent
  intro domain id consistent
  split
  · exact consistent
  · exact consistent.testEntityIsSubmerged isInside id _

end

end Visibility

section Moving

omit [DecidableEq τ]

theorem visitMoving_flags (state : WorkLists ι τ × List ι) (id : ι) :
    (visitMoving state id).2 = state.1.flag BulletEntry.markedAsMovingThisFrame id ∧
      (visitMoving state id).1.2 = state.2 ++ [id] ∧
      (∀ other, (visitMoving state id).1.1.flag BulletEntry.addedToMovingList other =
        if other = id then
          state.1.flag BulletEntry.addedToMovingList id &&
            state.1.flag BulletEntry.markedAsMovingThisFrame id
        else state.1.flag BulletEntry.addedToMovingList other) ∧
      (∀ other, other ≠ id → (visitMoving state id).1.1.flag BulletEntry.markedAsMovingThisFrame
        other = state.1.flag BulletEntry.markedAsMovingThisFrame other) ∧
      (visitMoving state id).1.1.flag BulletEntry.markedForVisibilityRecalculation =
        state.1.flag BulletEntry.markedForVisibilityRecalculation ∧
      (visitMoving state id).1.1.visibilityRecalculateQueue =
        state.1.visibilityRecalculateQueue := by
  rw [visitMoving]
  cases moved : state.1.flag BulletEntry.markedAsMovingThisFrame id with
  | true =>
    simp only [if_true, Bool.and_true]
    refine ⟨trivial, trivial, ?_, ?_, ?_, rfl⟩
    · intro other
      rw [flag_modify_of_same]
      · split
        · next same => rw [same]
        · rfl
      · exact fun _ => rfl
    · exact fun other different => flag_modify_of_ne _ _ _ different
    · rw [flag_modify_of_same]
      exact fun _ => rfl
  | false =>
    simp only [Bool.false_eq_true, if_false, Bool.and_false]
    refine ⟨trivial, trivial, ?_, ?_, ?_, rfl⟩
    · intro other
      split
      · next same =>
          rw [same, flag_modify_self]
          cases state.1.entries id <;> rfl
      · next different => exact flag_modify_of_ne _ _ _ different
    · exact fun other different => flag_modify_of_ne _ _ _ different
    · rw [flag_modify_of_same]
      exact fun _ => rfl

/-- What the loop does to each entry, once. -/
theorem visitAll_moving (order : List ι) (nodup : order.Nodup) (state : WorkLists ι τ × List ι) :
    staying visitMoving state order =
        order.filter (state.1.flag BulletEntry.markedAsMovingThisFrame) ∧
      (visitAll visitMoving state order).2 = state.2 ++ order ∧
      (∀ other, (visitAll visitMoving state order).1.flag BulletEntry.addedToMovingList other =
        if other ∈ order then
          state.1.flag BulletEntry.addedToMovingList other &&
            state.1.flag BulletEntry.markedAsMovingThisFrame other
        else state.1.flag BulletEntry.addedToMovingList other) ∧
      (visitAll visitMoving state order).1.flag BulletEntry.markedForVisibilityRecalculation =
        state.1.flag BulletEntry.markedForVisibilityRecalculation ∧
      (visitAll visitMoving state order).1.visibilityRecalculateQueue =
        state.1.visibilityRecalculateQueue := by
  induction order generalizing state with
  | nil => simp [staying, visitAll]
  | cons id order ih =>
    obtain ⟨absent, nodup⟩ := List.nodup_cons.mp nodup
    obtain ⟨stays, calls, added, moved, marked, queue⟩ := visitMoving_flags state id
    obtain ⟨laterStays, laterCalls, laterAdded, laterMarked, laterQueue⟩ :=
      ih nodup (visitMoving state id).1
    have different : ∀ other ∈ order, other ≠ id := by
      rintro other member rfl
      exact absent member
    refine ⟨?_, ?_, ?_, ?_, ?_⟩
    · have same : order.filter
          ((visitMoving state id).1.1.flag BulletEntry.markedAsMovingThisFrame) =
          order.filter (state.1.flag BulletEntry.markedAsMovingThisFrame) := by
        apply filter_congr
        intro other member
        exact moved other (different other member)
      rw [staying, stays, laterStays, same, filter_cons]
    · rw [visitAll, foldl_cons]
      change (visitAll visitMoving (visitMoving state id).1 order).2 = _
      rw [laterCalls, calls, append_assoc, singleton_append]
    · intro other
      rw [visitAll, foldl_cons]
      change (visitAll visitMoving (visitMoving state id).1 order).1.flag _ other = _
      rw [laterAdded, added]
      by_cases member : other ∈ order
      · have apart := different other member
        rw [if_pos member, if_pos (mem_cons_of_mem id member), if_neg apart, moved other apart]
      · by_cases same : other = id
        · subst same
          simp [member]
        · simp [member, same]
    · exact laterMarked.trans marked
    · exact laterQueue.trans queue

/-- Visited once, and kept if moved. -/
theorem processMoving_spec (consistent : Consistent domain) :
    domain.processMoving.2.Perm domain.movingEntities ∧
      domain.processMoving.1.movingEntities.Perm
        (domain.movingEntities.filter (domain.flag BulletEntry.markedAsMovingThisFrame)) ∧
      Consistent domain.processMoving.1 := by
  obtain ⟨order, isPerm, isState, stayed⟩ :=
    sweep_all visitMoving (domain, []) domain.movingEntities
  have nodup : order.Nodup := isPerm.nodup_iff.mpr consistent.moving.1
  obtain ⟨stays, calls, added, marked, queue⟩ := visitAll_moving order nodup (domain, [])
  have isCalls : domain.processMoving.2 = order := by
    rw [processMoving]
    dsimp only
    rw [isState, calls, nil_append]
  have isMoving : domain.processMoving.1.movingEntities =
      order.filter (domain.flag BulletEntry.markedAsMovingThisFrame) := by
    rw [processMoving]
    dsimp only
    rw [stayed, stays]
  have sameFlags : ∀ isSet : BulletEntry ι τ → Bool, domain.processMoving.1.flag isSet =
      (visitAll visitMoving (domain, []) order).1.flag isSet := by
    intro isSet
    rw [processMoving]
    dsimp only
    rw [← isState]
    rfl
  refine ⟨?_, ?_, ?_, ?_⟩
  · rw [isCalls]
    exact isPerm
  · rw [isMoving]
    exact isPerm.filter _
  · rw [isMoving, sameFlags]
    refine ⟨nodup.filter _, fun id => ?_⟩
    have member : id ∈ order ↔ domain.flag BulletEntry.addedToMovingList id = true := by
      rw [isPerm.mem_iff, consistent.moving.2]
    rw [added, mem_filter]
    by_cases isIn : id ∈ order
    · simp [isIn, member.mp isIn]
    · have unset : domain.flag BulletEntry.addedToMovingList id = false := by
        rw [← Bool.not_eq_true, ← member]
        exact isIn
      simp [isIn, unset]
  · have sameQueue : domain.processMoving.1.visibilityRecalculateQueue =
        domain.visibilityRecalculateQueue := by
      rw [processMoving]
      dsimp only
      rw [isState, queue]
    rw [sameFlags, marked, sameQueue]
    exact consistent.queue

end Moving

namespace Consistent

section

variable (consistent : Consistent domain) (changes : List (WorkChange ι τ))
  (isInside : ι → ι → Option Bool)

include consistent

theorem beforeMoving : Consistent (domain.beforeMoving changes isInside) :=
  (consistent.applyAll changes).updateVisibilityOfDirtyEntities.processWaterBodies isInside

theorem tick (terrain : List (WorkChange ι τ)) :
    Consistent (domain.tick changes isInside terrain) := by
  apply applyAll
  exact (processMoving_spec (consistent.beforeMoving changes isInside)).2.2

end

theorem step (consistent : Consistent domain) (event : Event ι τ) :
    Consistent (domain.step event) := by
  cases event with
  | addEntity id isWaterBody hasCollisionObject mode transform changes =>
    exact consistent.addEntity id isWaterBody hasCollisionObject mode transform changes
  | removeEntity id reported changes => exact consistent.removeEntity id reported changes
  | applyMode id mode reported => exact consistent.applyMode id mode reported
  | change change => exact consistent.apply change
  | tick changes isInside terrain => exact consistent.tick changes isInside terrain

omit [DecidableEq ι] [DecidableEq τ] in
theorem empty : Consistent (WorkLists.empty : WorkLists ι τ) where
  moving := ⟨nodup_nil, fun _ => by simp [WorkLists.empty, WorkLists.flag]⟩
  queue := ⟨nodup_nil, fun _ => by simp [WorkLists.empty, WorkLists.flag]⟩

end Consistent

/-- After every run the flags of an entry say which work lists it is in, and a tick visits each
entry of these once. -/
theorem run_workLists (events : List (Event ι τ)) :
    Consistent (run step WorkLists.empty events) ∧
      ∀ (changes : List (WorkChange ι τ)) (isInside : ι → ι → Option Bool)
        (terrain : List (WorkChange ι τ)),
        let started := (run step WorkLists.empty events).beforeMoving changes isInside
        let ticked := (run step WorkLists.empty events).tick changes isInside terrain
        started.processMoving.2.Nodup ∧
        started.processMoving.2.Perm started.movingEntities ∧
        started.processMoving.1.movingEntities.Perm
          (started.movingEntities.filter (started.flag BulletEntry.markedAsMovingThisFrame)) ∧
        Consistent started.processMoving.1 ∧
        ticked = started.processMoving.1.applyAll terrain ∧ Consistent ticked := by
  have consistent : Consistent (run step WorkLists.empty events) :=
    run_invariant_of_step Consistent (fun _ event consistent => consistent.step event)
      Consistent.empty events
  refine ⟨consistent, fun changes isInside terrain => ?_⟩
  have starts := consistent.beforeMoving changes isInside
  obtain ⟨visits, keeps, after⟩ := processMoving_spec starts
  have ticked := consistent.step (.tick changes isInside terrain)
  exact ⟨visits.nodup_iff.mpr starts.moving.1, visits, keeps, after, rfl, ticked⟩

end WorkLists

end Cyphesis.Simulation
