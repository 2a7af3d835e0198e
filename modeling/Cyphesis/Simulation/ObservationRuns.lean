import Cyphesis.Simulation.ObservationChanges

/-!
# Observers along the runs of a physical domain

Which runs keep the relation of observers and what they observe.
-/

namespace Cyphesis.Simulation

open Cyphesis.Foundation

namespace SightDomain

variable {domain after : SightDomain} {gap wider : EntryRef → EntryRef → Prop}
  {entry observer observed other : EntryRef}

section

variable (kept : Kept gap domain)

include kept

theorem Kept.mark (entry : EntryRef) :
    Kept gap (domain.mark entry) ∧ Follows domain (domain.mark entry) := by
  unfold SightDomain.mark
  split
  · exact ⟨kept, Follows.refl domain⟩
  · exact ⟨{ kept with }, { Follows.refl domain with }⟩

section

variable (entry) (overlaps : List Overlap)

theorem Kept.moveView :
    Kept gap (domain.moveView entry overlaps) ∧
      Follows domain (domain.moveView entry overlaps) := by
  unfold SightDomain.moveView
  split
  · exact ⟨kept, Follows.refl domain⟩
  · rename_i sphere isSphere
    exact kept.report_view (by simp [isSphere]) overlaps

theorem Kept.moveVisibility :
    Kept gap (domain.moveVisibility entry overlaps) ∧
      Follows domain (domain.moveVisibility entry overlaps) := by
  unfold SightDomain.moveVisibility
  split
  · exact ⟨kept, Follows.refl domain⟩
  · rename_i sphere isSphere
    exact kept.report_visibility (kept.visible entry (by simp [isSphere])) overlaps

end

theorem Kept.applyNewPositionForEntity (admin : Bool)
    (current : admin = true → ∀ change ∈ domain.observedByThisChanges entry,
      change.1 ∈ domain.live) (overlaps : MoveOverlaps) :
    Kept gap (domain.applyNewPositionForEntity entry admin overlaps) ∧
      Follows domain (domain.applyNewPositionForEntity entry admin overlaps) := by
  obtain ⟨keptViewed, viewed⟩ := kept.moveView entry overlaps.view
  obtain ⟨keptMoved, visibilityMoved⟩ := keptViewed.moveVisibility entry overlaps.visibility
  have moved := viewed.trans visibilityMoved
  unfold SightDomain.applyNewPositionForEntity
  cases admin with
  | false =>
    obtain ⟨keptMarked, marked⟩ := keptMoved.mark entry
    exact ⟨keptMarked, moved.trans marked⟩
  | true =>
    obtain ⟨keptUpdated, updated⟩ := keptMoved.updateObserverEntry (fun change isChange => by
      rw [moved.live]
      exact (moved.waiting entry change isChange).elim (current rfl change) id)
      overlaps.viewUpdated
    obtain ⟨keptMarked, marked⟩ := keptUpdated.mark entry
    exact ⟨keptMarked, (moved.trans updated).trans marked⟩

end

theorem perception_eq_self (kept : Whole domain) (equipped : domain.Equipped [containing])
    {id : Int} (found : domain.find id = some entry) (isOther : entry ≠ containing) (admin : Bool)
    (viewAdded viewUpdated : List Overlap) :
    (domain.applyPerception entry (domain.perceptive entry)).toggleChildPerception entry admin
      viewAdded viewUpdated = domain := by
  have same : domain.applyPerception entry (domain.perceptive entry) = domain := by
    simp [applyPerception]
  have isLive : entry ∈ domain.live := List.mem_map.mpr ⟨_, mem_live_of_find found, rfl⟩
  rw [same]
  unfold toggleChildPerception
  split
  · rename_i perceives
    have views := equipped entry isLive (by simpa using isOther) perceives
    obtain ⟨sphere, isSphere⟩ := Option.isSome_iff_exists.mp views
    simp [isSphere]
  · rename_i blind
    have noView : ¬ (domain.viewSphere entry).isSome := fun views =>
      blind (kept.viewing entry views).2
    simp [noView]

theorem Kept.ownPerception (kept : Whole domain) {perceptive : Bool}
    (allowed : perceptive = true ∨ domain.observedByThis containing = []) :
    Whole (domain.applyPerception containing perceptive) := by
  refine { kept with viewing := ?_, observed := ?_ }
  · intro at' views
    have different : at' ≠ containing := by
      rintro rfl
      simp [applyPerception, kept.homeView] at views
    obtain ⟨isLive, perceives⟩ := kept.viewing at' views
    refine ⟨isLive, ?_⟩
    simpa only [applyPerception, Function.update_of_ne different] using perceives
  · intro x y sees
    obtain ⟨observerLive, observedLive, perceives⟩ := kept.observed x y sees
    refine ⟨observerLive, observedLive, ?_⟩
    by_cases same : x = containing
    · rcases allowed with isPerceptive | nothing
      · simp [applyPerception, same, isPerceptive]
      · have seesBefore : y ∈ domain.observedByThis containing := same ▸ sees
        rw [nothing] at seesBefore
        contradiction
    · simpa only [applyPerception, Function.update_of_ne same] using perceives

/-- Added, removed if unseen, and forgotten. -/
def Orderly (domain : SightDomain) : SightEvent → Prop
  | .addEntity added => domain.find added.id = none
  | .removeEntity id => ∀ entry ∈ domain.find id,
      entry ≠ containing ∧ domain.perceptive containing = false
  | .perception id perceptive _ _ _ => ∀ entry ∈ domain.find id,
      entry ≠ containing ∧ perceptive = domain.perceptive entry
  | .ownPerception perceptive => perceptive = true ∨ domain.observedByThis containing = []
  | .move id admin _ => admin = true → ∀ entry ∈ domain.find id,
      ∀ change ∈ domain.observedByThisChanges entry, change.1 ∈ domain.live
  | .mark _ => True
  | .updateVisibility _ => ∀ entry ∈ domain.dirty,
      (∀ change ∈ domain.observedByThisChanges entry, change.1 ∈ domain.live) ∧
        ∀ change ∈ domain.observingThisChanges entry, change.1 ∈ domain.live

instance decidableOrderly (domain : SightDomain) :
    (event : SightEvent) → Decidable (domain.Orderly event)
  | .addEntity added => inferInstanceAs (Decidable (domain.find added.id = none))
  | .removeEntity id => inferInstanceAs (Decidable (∀ entry ∈ domain.find id,
      entry ≠ containing ∧ domain.perceptive containing = false))
  | .perception id perceptive _ _ _ => inferInstanceAs (Decidable (∀ entry ∈ domain.find id,
      entry ≠ containing ∧ perceptive = domain.perceptive entry))
  | .ownPerception perceptive =>
    inferInstanceAs (Decidable (perceptive = true ∨ domain.observedByThis containing = []))
  | .move id admin _ => inferInstanceAs (Decidable (admin = true → ∀ entry ∈ domain.find id,
      ∀ change ∈ domain.observedByThisChanges entry, change.1 ∈ domain.live))
  | .mark _ => isTrue trivial
  | .updateVisibility _ => inferInstanceAs (Decidable (∀ entry ∈ domain.dirty,
      (∀ change ∈ domain.observedByThisChanges entry, change.1 ∈ domain.live) ∧
        ∀ change ∈ domain.observingThisChanges entry, change.1 ∈ domain.live))

theorem Equipped.applyPerception (equipped : domain.Equipped [containing]) (perceptive : Bool) :
    (domain.applyPerception containing perceptive).Equipped [containing] := by
  intro entry isLive isNot perceives
  have different : entry ≠ containing := fun same => isNot (List.mem_singleton.mpr same)
  simp only [SightDomain.applyPerception, Function.update_of_ne different] at perceives
  exact equipped entry isLive isNot perceives

theorem step_kept {event : SightEvent} (kept : Whole domain)
    (equipped : domain.Equipped [containing]) (orderly : domain.Orderly event) :
    Whole (domain.step event) ∧ (domain.step event).Equipped [containing] := by
  cases event with
  | addEntity added => exact kept.addEntity equipped orderly
  | removeEntity id => exact kept.removeEntity equipped orderly
  | perception id perceptive admin viewAdded viewUpdated =>
    simp only [step]
    cases found : domain.find id with
    | none => exact ⟨kept, equipped⟩
    | some entry =>
      obtain ⟨isOther, rfl⟩ := orderly entry found
      rw [Option.elim_some, perception_eq_self kept equipped found isOther]
      exact ⟨kept, equipped⟩
  | ownPerception perceptive =>
    exact ⟨kept.ownPerception orderly, equipped.applyPerception perceptive⟩
  | move id admin overlaps =>
    simp only [step]
    cases found : domain.find id with
    | none => exact ⟨kept, equipped⟩
    | some entry =>
      obtain ⟨keptMoved, moved⟩ := kept.applyNewPositionForEntity admin
        (fun isAdmin => orderly isAdmin entry found) overlaps
      exact ⟨keptMoved, moved.equipped equipped⟩
  | mark id =>
    simp only [step]
    cases found : domain.find id with
    | none => exact ⟨kept, equipped⟩
    | some entry =>
      obtain ⟨keptMarked, marked⟩ := kept.mark entry
      exact ⟨keptMarked, marked.equipped equipped⟩
  | updateVisibility overlaps =>
    obtain ⟨keptUpdated, updated⟩ := kept.updateVisibilityOfDirtyEntities
      (fun entry isDirty => ⟨(orderly entry isDirty).1, (orderly entry isDirty).2⟩) overlaps
    exact ⟨keptUpdated, updated.equipped equipped⟩

variable (owner : Int) (perceptive : Bool)

theorem initial_kept : Whole (initial owner perceptive) := by
  constructor <;> simp [initial, live, containing]

theorem initial_equipped : (initial owner perceptive).Equipped [containing] := by
  intro entry isLive isNot
  exact absurd isLive isNot

/-- Who observes whom, and by whom one is observed, agree after every run of harmless steps. -/
theorem run_observersAgree (events : List SightEvent)
    (orderly : Admissible step Orderly (initial owner perceptive) events) :
    (run step (initial owner perceptive) events).Agrees := by
  have invariant : Whole (run step (initial owner perceptive) events) ∧
      (run step (initial owner perceptive) events).Equipped [containing] := by
    apply run_invariant (fun domain => Whole domain ∧ domain.Equipped [containing]) _ _ orderly
    · exact fun domain event kept isOrderly => step_kept kept.1 kept.2 isOrderly
    · exact ⟨initial_kept owner perceptive, initial_equipped owner perceptive⟩
  exact invariant.1.agrees

/-- It overlaps nothing at first. -/
def AddedEntity.alone (id : Int) (perceptive : Bool) : AddedEntity :=
  { id := id, hasPosition := true, perceptive := perceptive, admin := false, hidden := false
    visibilityAdded := [], viewAdded := [], viewUpdated := [], visibilityUpdated := [] }

/-- It begins to see `other`. -/
def beginsToSee (id : Int) (other : EntryRef) : SightEvent :=
  .move id false { view := [⟨other, .visibility, .add⟩], visibility := [], viewUpdated := [] }

/-- It comes to be seen, and is taken. -/
theorem run_observersAgree_taken_away :
    Admissible step Orderly (initial 1 false)
        [.addEntity (.alone 2 true), .addEntity (.alone 3 false), beginsToSee 2 2,
          .updateVisibility fun _ _ => [], .removeEntity 3] ∧
      (run step (initial 1 false)
        [.addEntity (.alone 2 true), .addEntity (.alone 3 false), beginsToSee 2 2,
          .updateVisibility fun _ _ => []]).observedByThis 1 = [2, 0, 1] ∧
      (run step (initial 1 false)
        [.addEntity (.alone 2 true), .addEntity (.alone 3 false), beginsToSee 2 2,
          .updateVisibility fun _ _ => [], .removeEntity 3]).Agrees := by
  refine ⟨by decide +kernel, by decide +kernel, ?_⟩
  apply run_observersAgree
  decide +kernel

/-- After a toggle one is missed, or observed. -/
theorem run_observers_disagree :
    ¬ (run step (initial 1 true) [.addEntity (.alone 2 false), .removeEntity 2]).Agrees ∧
    ¬ (run step (initial 1 false)
      [.addEntity (.alone 2 false), .perception 2 true false [] []]).Agrees ∧
    ¬ (run step (initial 1 false)
      [.addEntity (.alone 2 true), .perception 2 false false [] []]).Agrees ∧
    ¬ (run step (initial 1 false)
      [.addEntity (.alone 2 true), .addEntity (.alone 3 false), beginsToSee 2 2,
        .removeEntity 3, .updateVisibility fun _ _ => []]).Agrees := by
  refine ⟨fun agrees => ?_, fun agrees => ?_, fun agrees => ?_, fun agrees => ?_⟩
  · have gone := agrees.observed_live 0 (by decide +kernel) 1 (by decide +kernel)
    exact absurd gone (by decide +kernel)
  · have sees := (agrees.agree 1 (by decide +kernel) 0 (by decide +kernel)).mpr (by decide +kernel)
    exact absurd sees (by decide +kernel)
  · have nothing := agrees.blind 1 (by decide +kernel) (by decide +kernel)
    exact absurd nothing (by decide +kernel)
  · have gone := agrees.observed_live 1 (by decide +kernel) 2 (by decide +kernel)
    exact absurd gone (by decide +kernel)

end SightDomain

end Cyphesis.Simulation
