import Cyphesis.Simulation.ObserverRemoval

/-!
# Access to nested containers

Registering an observer asks every container around that it is outside of.
-/

namespace Cyphesis.Simulation

open Cyphesis.Foundation List
open Function

namespace ContainerAccess

variable {world : ContainerWorld} {access before after : ContainerAccess}
  {container id : String} {observation : Nat}

theorem Sound.next_free (sound : Sound access) : access.observations access.next = none := by
  cases isObserved : access.observations access.next with
  | none => rfl
  | some observed =>
    have before := sound.live access.next (by simp [isObserved])
    exact absurd before (Nat.lt_irrefl _)

/-- After an observation has been made. -/
def observed (access : ContainerAccess) (entry : PathObservation) : ContainerAccess :=
  { access.observe access.next entry with next := access.next + 1 }

variable {disconnectFunctions : List Nat} {hasEntry : String → String → Bool}
   {ancestors : List String}

theorem observeCloseness_eq_some {entry : PathObservation}
    (accepted : observeCloseness world hasEntry access entry = some after) :
    after = access.observed entry ∧
      (world.domain entry.domain = some .container →
        access.Registered entry.domain entry.reacher) := by
  unfold observeCloseness at accepted
  split at accepted
  next isAccepted =>
    cases accepted
    refine ⟨rfl, fun isContainer => ?_⟩
    rw [accepts, isContainer, Bool.and_eq_true] at isAccepted
    exact hasObserverRegistered_iff.mp isAccepted.1
  next => cases accepted

section Observed

variable {entry : PathObservation}

theorem mem_observed {new : ObservationEntry}
    (member : new ∈ (access.observed entry).reachingEntities) :
    ∃ old ∈ access.reachingEntities, names old = names new ∧
      old.disconnectFunctions = new.disconnectFunctions ∧
      ∀ observation ∈ new.closenessObservations,
        observation = access.next ∨ observation ∈ old.closenessObservations := by
  obtain ⟨old, isOld, sameNames, sameHandles, ⟨_, eq⟩ | ⟨_, eq⟩⟩ := mem_modifyEntry member
  · exact ⟨old, isOld, sameNames, sameHandles, fun _ isNew => List.mem_cons.mp (eq ▸ isNew)⟩
  · exact ⟨old, isOld, sameNames, sameHandles, fun _ isNew => .inr (eq ▸ isNew)⟩

section

variable (entry)

theorem observations_observed_of_lt {x : Nat} (below : x < access.next) :
    (access.observed entry).observations x = access.observations x :=
  update_of_ne below.ne _ _

theorem observedFor_observed :
    (access.observed entry).ObservedFor access.next entry.container entry.reacher :=
  ⟨entry, update_self .., rfl, rfl⟩

end

theorem ObservedFor.observed {observation : Nat} {inner observer : String}
    (holds : access.ObservedFor observation inner observer) (sound : Sound access)
    (entry : PathObservation) : (access.observed entry).ObservedFor observation inner observer := by
  obtain ⟨held, isHeld, named⟩ := holds
  have below := sound.live observation (by simp [isHeld])
  exact ⟨held, (observations_observed_of_lt entry below).trans isHeld, named⟩

theorem Through.observed {outer inner observer : String}
    (through : access.Through outer inner observer) (sound : Sound access)
    (entry : PathObservation) : (access.observed entry).Through outer inner observer := by
  obtain ⟨holder, member, named, held, isHeld, holds⟩ := through
  obtain ⟨new, isNew, sameNames, stillHeld⟩ := exists_modifyEntry access entry.domain
    entry.reacher (fun observations => mem_cons_of_mem access.next) member isHeld
  exact ⟨new, isNew, sameNames.trans named, held, stillHeld, holds.observed sound entry⟩

theorem through_observed (isObserver : access.Registered entry.domain entry.reacher) :
    (access.observed entry).Through entry.domain entry.container entry.reacher := by
  obtain ⟨holder, member, named⟩ := isObserver
  refine ⟨_, mem_map_of_mem member, ?_, access.next, ?_, observedFor_observed entry⟩
  · rw [if_pos named]
    exact Prod.ext named.1 named.2
  · rw [if_pos named]
    exact mem_cons_self

theorem Sound.observed (sound : Sound access) (entry : PathObservation) :
    Sound (access.observed entry) := by
  constructor
  · intro new member observation isHandle held isHeld
    obtain ⟨old, isOld, sameNames, sameHandles, _⟩ := mem_observed member
    obtain ⟨sameContainer, sameId⟩ := Prod.mk.inj sameNames
    rw [← sameHandles] at isHandle
    rw [← sameContainer, ← sameId]
    apply sound.handles old isOld observation isHandle held
    rw [← observations_observed_of_lt entry (sound.disconnects old isOld observation isHandle)]
    exact isHeld
  · have same : (access.observed entry).reachingEntities.map names =
        access.reachingEntities.map names := names_modifyEntry ..
    rw [same]
    exact sound.unique
  · intro observation isSome
    rcases Nat.lt_or_ge observation access.next with below | above
    · exact below.trans (Nat.lt_succ_self _)
    · rcases above.eq_or_lt with rfl | further
      · exact Nat.lt_succ_self _
      · have old : (access.observed entry).observations observation =
            access.observations observation := update_of_ne further.ne' _ _
        rw [old] at isSome
        exact (sound.live observation isSome).trans (Nat.lt_succ_self _)
  · intro new member observation isObservation
    obtain ⟨old, isOld, _, _, from_old⟩ := mem_observed member
    rcases from_old observation isObservation with rfl | isOldOne
    · exact Nat.lt_succ_self _
    · exact (sound.closeness old isOld observation isOldOne).trans (Nat.lt_succ_self _)
  · intro new member observation isHandle
    obtain ⟨old, isOld, _, sameHandles, _⟩ := mem_observed member
    rw [← sameHandles] at isHandle
    exact (sound.disconnects old isOld observation isHandle).trans (Nat.lt_succ_self _)

theorem Linked.observed (linked : Linked world none [] access) (sound : Sound access)
    (entry : PathObservation) : Linked world none [] (access.observed entry) := by
  intro inner observer isObserver free outer isContainer nested outside
  have wasObserver : access.Registered inner observer := by
    obtain ⟨new, member, isInner, isId⟩ := isObserver
    obtain ⟨old, isOld, sameNames, _⟩ := mem_observed member
    exact .of_names isOld (sameNames.trans (Prod.ext isInner isId))
  rcases linked inner observer wasObserver free outer isContainer nested outside with
    through | ⟨_, none, _⟩
  · exact .inl (through.observed sound entry)
  · cases none

end Observed

/-- Disconnect functions are the observer's. -/
structure Underway (world : ContainerWorld) (container id : String) (disconnectFunctions : List Nat)
    (access : ContainerAccess) : Prop where
  sound : Sound access
  linked : Linked world none [] access
  own : ∀ observation ∈ disconnectFunctions, access.ObservedFor observation container id

theorem Underway.observed (underway : Underway world container id disconnectFunctions access)
    (domain target : String) :
    Underway world container id (disconnectFunctions ++ [access.next])
      (access.observed ⟨domain, id, target, container⟩) := by
  constructor
  · exact underway.sound.observed _
  · exact underway.linked.observed underway.sound _
  · intro observation member
    rcases List.mem_append.mp member with old | new
    · exact (underway.own observation old).observed underway.sound _
    · rw [List.mem_singleton.mp new]
      exact observedFor_observed ⟨domain, id, target, container⟩

variable {domain : Option String}

theorem observeDown_some {disconnectFunctions result : List Nat}
    (underway : Underway world container id disconnectFunctions access)
    (agreed : observeDown world hasEntry container id ancestors domain disconnectFunctions access =
      (some result, after)) :
    Underway world container id result after ∧
      (∀ outer, access.Through outer container id → after.Through outer container id) ∧
      ∀ outer ∈ world.asked domain ancestors, world.domain outer = some .container →
        after.Through outer container id := by
  induction ancestors generalizing domain disconnectFunctions access with
  | nil =>
    cases agreed
    refine ⟨underway, fun _ through => through, fun outer isAsked => ?_⟩
    cases isAsked
  | cons ancestor rest ih =>
    cases domain with
    | none => exact ih underway agreed
    | some domain =>
      rw [observeDown] at agreed
      split at agreed
      next => cases agreed
      next established accepted =>
        obtain ⟨rfl, isObserver⟩ := observeCloseness_eq_some accepted
        obtain ⟨reached, kept, all⟩ := ih (underway.observed domain ancestor) agreed
        refine ⟨reached, fun outer through => kept outer (through.observed underway.sound _), ?_⟩
        intro outer isAsked isContainer
        rcases List.mem_append.mp isAsked with first | later
        · cases List.mem_singleton.mp first
          exact kept domain (through_observed (isObserver isContainer))
        · exact all outer later isContainer

theorem modifyEntry_comm (access : ContainerAccess) (container id otherContainer otherId : String)
    {first second : List Nat → List Nat}
    (commute : ∀ observations, first (second observations) = second (first observations)) :
    (access.modifyEntry container id first).modifyEntry otherContainer otherId second =
      (access.modifyEntry otherContainer otherId second).modifyEntry container id first := by
  simp only [modifyEntry, map_map, ContainerAccess.mk.injEq, and_true]
  apply map_congr_left
  intro entry _
  by_cases isFirst : entry.container = container ∧ entry.observer = id
  · by_cases isSecond : entry.container = otherContainer ∧ entry.observer = otherId
    · simp only [comp, if_pos isFirst, if_pos isSecond, commute]
    · simp only [comp, if_pos isFirst, if_neg isSecond]
  · by_cases isSecond : entry.container = otherContainer ∧ entry.observer = otherId
    · simp only [comp, if_neg isFirst, if_pos isSecond]
    · simp only [comp, if_neg isFirst, if_neg isSecond]

theorem disconnect_observed {entry : PathObservation} (other : observation ≠ access.next) :
    (access.observed entry).disconnect observation =
      (access.disconnect observation).observed entry := by
  have same : (access.observed entry).observations observation =
      access.observations observation := update_of_ne other _ _
  unfold ContainerAccess.disconnect
  rw [same]
  split
  · rfl
  next held _ =>
    have commute : ∀ observations : List Nat,
        access.next :: observations.filter (· ≠ observation) =
          (access.next :: observations).filter (· ≠ observation) := by
      intro observations
      rw [filter_cons_of_pos (by simpa using other.symm)]
    have entries := congrArg reachingEntities
      (modifyEntry_comm access entry.domain entry.reacher held.domain held.reacher commute)
    apply ContainerAccess.ext
    · exact entries
    · exact update_comm other.symm _ _ _
    · rfl

theorem disconnect_observed_self (sound : Sound access) (entry : PathObservation) :
    (access.observed entry).disconnect access.next = { access with next := access.next + 1 } := by
  have isNew : (access.observed entry).observations access.next = some entry :=
    update_self ..
  unfold ContainerAccess.disconnect
  rw [isNew]
  apply ContainerAccess.ext
  · simp only [ContainerAccess.observed, observe, release, modifyEntry, map_map]
    refine (map_congr_left ?_).trans (map_id _)
    intro holder member
    by_cases isHolder : holder.container = entry.domain ∧ holder.observer = entry.reacher
    · have old : holder.closenessObservations.filter (· ≠ access.next) =
          holder.closenessObservations := by
        apply List.filter_eq_self.mpr
        intro held isHeld
        exact decide_eq_true (sound.closeness holder member held isHeld).ne
      simp only [comp, if_pos isHolder, id_eq]
      rw [filter_cons_of_neg (by simp), old]
    · simp only [comp, if_neg isHolder, id_eq]
  · change update (update access.observations access.next (some entry))
      access.next none = access.observations
    rw [update_idem, update_eq_self_iff]
    exact sound.next_free.symm
  · rfl

theorem foldl_disconnect_observed {entry : PathObservation} {observations : List Nat}
    (used : ∀ observation ∈ observations, observation < access.next) :
    observations.foldl disconnect (access.observed entry) =
      (observations.foldl disconnect access).observed entry := by
  induction observations generalizing access with
  | nil => rfl
  | cons first rest ih =>
    rw [foldl_cons, foldl_cons, disconnect_observed (used first mem_cons_self).ne]
    apply ih
    intro observation member
    rw [(disconnect_shrinks access first).next]
    exact used observation (mem_cons_of_mem first member)

theorem Sound.later (sound : Sound access) {next : Nat} (later : access.next ≤ next) :
    Sound { access with next := next } := by
  constructor
  · exact sound.handles
  · exact sound.unique
  · exact fun observation isSome => (sound.live observation isSome).trans_le later
  · exact fun entry member observation isObservation =>
      (sound.closeness entry member observation isObservation).trans_le later
  · exact fun entry member observation isHandle =>
      (sound.disconnects entry member observation isHandle).trans_le later

theorem observeDown_none (sound : Sound before)
    (later : before.next ≤ access.next) (used : ∀ observation ∈ disconnectFunctions,
      observation < access.next)
    (back : disconnectFunctions.foldl disconnect access = { before with next := access.next })
    (refused : observeDown world hasEntry container id ancestors domain disconnectFunctions access =
      (none, after)) : ∃ next, before.next ≤ next ∧ after = { before with next := next } := by
  induction ancestors generalizing domain disconnectFunctions access with
  | nil => cases refused
  | cons ancestor rest ih =>
    cases domain with
    | none => exact ih later used back refused
    | some domain =>
      rw [observeDown] at refused
      split at refused
      next =>
        cases refused
        exact ⟨access.next, later, back⟩
      next established accepted =>
        obtain ⟨rfl, _⟩ := observeCloseness_eq_some accepted
        refine ih (later.trans (Nat.le_succ _)) ?_ ?_ refused
        · intro observation member
          rcases List.mem_append.mp member with old | new
          · exact (used observation old).trans (Nat.lt_succ_self _)
          · rw [List.mem_singleton.mp new]
            exact Nat.lt_succ_self _
        · rw [foldl_append, foldl_disconnect_observed used, back]
          exact disconnect_observed_self (sound.later later) _

theorem establish_none (sound : Sound access)
    (refused : establish world hasEntry container id access = (none, after)) :
    ∃ next, access.next ≤ next ∧ after = { access with next := next } := by
  have same : after = access → ∃ next, access.next ≤ next ∧ after = { access with next := next } :=
    fun same => ⟨access.next, Nat.le_refl _, same⟩
  unfold establish at refused
  split at refused
  · split at refused
    · cases refused
      exact same rfl
    · split at refused
      · cases refused
        exact same rfl
      · cases refused
  · split at refused
    split at refused
    · cases refused
      exact same rfl
    · refine observeDown_none sound (Nat.le_refl _) ?_ rfl refused
      intro observation member
      cases member

theorem establish_some (sound : Sound access) (linked : Linked world none [] access)
    (agreed : establish world hasEntry container id access = (some disconnectFunctions, after)) :
    Underway world container id disconnectFunctions after ∧
      ∀ outer, world.domain outer = some .container → world.Nested container outer →
        world.Outside id outer → after.Through outer container id := by
  have start : Underway world container id [] access := by
    refine ⟨sound, linked, ?_⟩
    intro observation member
    cases member
  unfold establish at agreed
  split at agreed
  next sameParent =>
    split at agreed
    · cases agreed
    next domain _ =>
      split at agreed
      · cases agreed
      next established accepted =>
        cases agreed
        obtain ⟨rfl, _⟩ := observeCloseness_eq_some accepted
        refine ⟨start.observed domain container, ?_⟩
        -- Whatever is around the container is around the observer.
        rintro outer _ ⟨different, reaches⟩ outside
        obtain ⟨above, isParent, further⟩ := reaches.parent_of_ne different
        exact absurd (.of_parent (sameParent.trans isParent) further) outside
  next =>
    split at agreed
    next topObserver parentDomain search =>
    split at agreed
    · cases agreed
    next toAncestors domain found =>
      obtain ⟨underway, _, all⟩ := observeDown_some start agreed
      refine ⟨underway, ?_⟩
      intro outer isContainer nested outside
      apply all outer _ isContainer
      have top : Reaches world.parent id topObserver := by
        have first : _ = topObserver := congrArg Prod.fst search
        rw [← first]
        apply ContainerWorld.findObserverDomain_reaches (.refl _ _)
        intro entity isParent
        exact .of_parent isParent (.refl _ _)
      exact ContainerWorld.findAncestor_asks top found (by simp [isContainer]) nested outside

theorem mem_enter {entry : ObservationEntry}
    (member : entry ∈ (access.enter container id disconnectFunctions).reachingEntities) :
    (names entry = (container, id) ∧ entry.disconnectFunctions = disconnectFunctions ∧
        ∀ observation ∈ entry.closenessObservations, ∃ old ∈ access.reachingEntities,
          observation ∈ old.closenessObservations) ∨
      names entry ≠ (container, id) ∧ entry ∈ access.reachingEntities := by
  unfold enter at member
  split at member
  · obtain ⟨old, isOld, rfl⟩ := List.mem_map.mp member
    by_cases named : old.container = container ∧ old.observer = id
    · left
      rw [if_pos named]
      exact ⟨Prod.ext named.1 named.2, rfl, fun observation held => ⟨old, isOld, held⟩⟩
    · right
      rw [if_neg named]
      exact ⟨fun same => named (Prod.mk.inj same), isOld⟩
  next absent =>
    rw [hasObserverRegistered_iff] at absent
    rcases (mem_orderedInsert _).mp member with rfl | isOld
    · left
      refine ⟨rfl, rfl, fun observation held => ?_⟩
      cases held
    · exact .inr ⟨fun named => absent (.of_names isOld named), isOld⟩

theorem nodup_enter (sound : Sound access) :
    ((access.enter container id disconnectFunctions).reachingEntities.map names).Nodup := by
  unfold enter
  split
  · rw [map_map]
    have same : access.reachingEntities.map (names ∘ fun entry =>
        if entry.container = container ∧ entry.observer = id then
          { entry with disconnectFunctions := disconnectFunctions }
        else entry) = access.reachingEntities.map names := by
      apply map_congr_left
      intro entry _
      simp only [comp, names]
      split <;> rfl
    rw [same]
    exact sound.unique
  next absent =>
    rw [hasObserverRegistered_iff] at absent
    have perm := (perm_orderedInsert (fun first second : ObservationEntry =>
      first.observer ≤ second.observer) ⟨container, id, disconnectFunctions, []⟩
      access.reachingEntities).map names
    apply perm.nodup_iff.mpr
    apply List.nodup_cons.mpr
    constructor
    · intro member
      obtain ⟨entry, isEntry, named⟩ := List.mem_map.mp member
      exact absent (.of_names isEntry named)
    · exact sound.unique

theorem Through.enter {outer inner observer : String}
    (through : access.Through outer inner observer) (disconnectFunctions : List Nat) :
    (access.enter container id disconnectFunctions).Through outer inner observer := by
  obtain ⟨holder, member, named, held, isHeld, holds⟩ := through
  unfold ContainerAccess.enter
  split
  · refine ⟨_, mem_map_of_mem member, ?_, held, ?_, holds⟩
    · split
      · exact named
      · exact named
    · split
      · exact isHeld
      · exact isHeld
  · exact ⟨holder, (mem_orderedInsert _).mpr (.inr member), named, held, isHeld, holds⟩

theorem enter_observations (access : ContainerAccess) (container id : String)
    (disconnectFunctions : List Nat) :
    (access.enter container id disconnectFunctions).observations = access.observations ∧
      (access.enter container id disconnectFunctions).next = access.next := by
  unfold enter
  split
  · exact ⟨rfl, rfl⟩
  · exact ⟨rfl, rfl⟩

theorem Underway.enter (underway : Underway world container id disconnectFunctions access)
    (held : ∀ outer, world.domain outer = some .container → world.Nested container outer →
      world.Outside id outer → access.Through outer container id) :
    Sound (access.enter container id disconnectFunctions) ∧
      Linked world none [] (access.enter container id disconnectFunctions) := by
  obtain ⟨sameObservations, sameNext⟩ :=
    enter_observations access container id disconnectFunctions
  constructor
  · constructor
    · intro entry member observation isHandle observed isObserved
      rw [sameObservations] at isObserved
      rcases mem_enter member with ⟨named, handles, _⟩ | ⟨_, isOld⟩
      · obtain ⟨isContainer, isId⟩ := Prod.mk.inj named
        obtain ⟨found, isFound, names⟩ := underway.own observation (handles ▸ isHandle)
        cases isObserved.symm.trans isFound
        exact ⟨names.1.trans isContainer.symm, names.2.trans isId.symm⟩
      · exact underway.sound.handles entry isOld observation isHandle observed isObserved
    · exact nodup_enter underway.sound
    · rw [sameObservations, sameNext]
      exact underway.sound.live
    · intro entry member observation isObservation
      rw [sameNext]
      rcases mem_enter member with ⟨_, _, old⟩ | ⟨_, isOld⟩
      · obtain ⟨before, isBefore, isOld⟩ := old observation isObservation
        exact underway.sound.closeness before isBefore observation isOld
      · exact underway.sound.closeness entry isOld observation isObservation
    · intro entry member observation isHandle
      rw [sameNext]
      rcases mem_enter member with ⟨_, handles, _⟩ | ⟨_, isOld⟩
      · obtain ⟨found, isFound, _⟩ := underway.own observation (handles ▸ isHandle)
        exact underway.sound.live observation (by simp [isFound])
      · exact underway.sound.disconnects entry isOld observation isHandle
  · intro inner observer isObserver free outer isContainer nested outside
    left
    apply Through.enter
    obtain ⟨entry, member, isInner, isId⟩ := isObserver
    rcases mem_enter member with ⟨named, _⟩ | ⟨_, isOld⟩
    · obtain ⟨sameContainer, sameId⟩ := Prod.mk.inj named
      cases isInner.symm.trans sameContainer
      cases isId.symm.trans sameId
      exact held outer isContainer nested outside
    · rcases underway.linked inner observer ⟨entry, isOld, isInner, isId⟩ free outer isContainer
        nested outside with through | ⟨_, none, _⟩
      · exact through
      · cases none

/-- Observers are held by the containers around. -/
structure Connected (world : ContainerWorld) (access : ContainerAccess) : Prop where
  sound : Sound access
  linked : Linked world none [] access

namespace Connected

theorem initial : Connected world ContainerAccess.initial := by
  constructor
  · exact Sound.initial
  · rintro inner observer ⟨entry, member, _⟩
    cases member

section

variable (connected : Connected world access)

include connected

theorem registered_outer {inner outer observer : String}
    (isContainer : world.domain outer = some .container) (nested : world.Nested inner outer)
    (outside : world.Outside observer outer) (isObserver : access.Registered inner observer) :
    access.Registered outer observer := by
  rcases connected.linked inner observer isObserver (Option.some_ne_none _).symm outer isContainer
    nested outside with ⟨entry, member, named, _⟩ | ⟨_, none, _⟩
  · exact .of_names member named
  · cases none

theorem later {next : Nat} (later : access.next ≤ next) :
    Connected world { access with next := next } :=
  ⟨connected.sound.later later, connected.linked⟩

theorem addObserver (hasEntry : String → String → Bool) (container id : String) :
    Connected world (addObserver world hasEntry container id access) := by
  unfold ContainerAccess.addObserver
  split
  · split
    next refused =>
      obtain ⟨next, isLater, rfl⟩ := establish_none connected.sound refused
      exact connected.later isLater
    next disconnectFunctions established agreed =>
      obtain ⟨underway, held⟩ := establish_some connected.sound connected.linked agreed
      obtain ⟨sound, linked⟩ := underway.enter held
      exact ⟨sound, linked⟩
  · exact connected

theorem removeObserver (container id : String) :
    Connected world (removeObserver world access container id) := by
  constructor
  · exact (removeObserverWithin_shrinks world _ access container id).sound connected.sound
  · exact removeObserverWithin_linked _ (Nat.le_refl _) connected.sound (connected.linked.spare _)

theorem sever (observation : Nat) : Connected world (sever world access observation) := by
  unfold ContainerAccess.sever
  split
  · exact connected
  next severed isObserved =>
    have released := (release_shrinks access observation).sound connected.sound
    have pending : Linked world none [observation] access := by
      intro inner observer isObserver free outer isContainer nested outside
      exact .inl (((connected.linked inner observer isObserver free outer isContainer nested
        outside).resolve_right (by simp)))
    constructor
    · exact (removeObserverWithin_shrinks world _ _ _ _).sound released
    · exact removeObserverWithin_linked _ (Nat.le_refl _) released (pending.release isObserved)

theorem setObservers (hasEntry : String → String → Bool) (container : String)
    (observerIds : List String) :
    Connected world (setObservers world hasEntry access container observerIds) := by
  unfold ContainerAccess.setObservers
  apply run_invariant_of_step (Connected world)
  · exact fun current id connected => connected.removeObserver container id
  · apply run_invariant_of_step
      (fun current : List String × ContainerAccess => Connected world current.2)
    · intro current newId connected
      by_cases isOld : newId ∈ current.1
      · simp only [if_pos isOld]
        exact connected
      · simp only [if_neg isOld]
        exact connected.addObserver hasEntry container newId
    · exact connected

theorem removeAll (container : String) (bound : Nat) :
    Connected world (removeAll world container bound access) := by
  induction bound generalizing access with
  | zero => exact connected
  | succ bound ih =>
    rw [ContainerAccess.removeAll]
    split
    · exact connected
    next entry _ => exact ih (connected.removeObserver container entry.observer)

theorem step (event : AccessEvent) : Connected world (step world access event) := by
  cases event with
  | setObservers container observerIds hasEntry =>
    rw [ContainerAccess.step]
    split
    · exact connected.setObservers hasEntry container observerIds
    · exact connected
  | addObserver container id hasEntry =>
    rw [ContainerAccess.step]
    split
    · exact connected.addObserver hasEntry container id
    · exact connected
  | removeObserver container id => exact connected.removeObserver container id
  | sever observation => exact connected.sever observation
  | removed container => exact connected.removeAll container _

end

end Connected

theorem registered_enter (access : ContainerAccess) (container id : String)
    (disconnectFunctions : List Nat) :
    (access.enter container id disconnectFunctions).Registered container id := by
  unfold enter
  split
  next isObserver =>
    obtain ⟨entry, member, named⟩ := hasObserverRegistered_iff.mp isObserver
    refine ⟨_, mem_map_of_mem member, ?_⟩
    rw [if_pos named]
    exact named
  next => exact ⟨_, (mem_orderedInsert _).mpr (.inl rfl), rfl, rfl⟩

/-- Promises about inner containers. -/
structure NestedAccess (world : ContainerWorld) (access : ContainerAccess) : Prop where
  /-- Inner observers are outer ones. -/
  outer : ∀ inner outer observer, world.domain outer = some .container →
    world.Nested inner outer → world.Outside observer outer →
    access.hasObserverRegistered inner observer = true →
    access.hasObserverRegistered outer observer = true
  /-- Whoever loses access to a container loses what is inside of it. -/
  lost : ∀ event outer observer, world.domain outer = some .container →
    world.Outside observer outer → access.hasObserverRegistered outer observer = true →
    (step world access event).hasObserverRegistered outer observer = false →
    ∀ inner, world.Nested inner outer →
      (step world access event).hasObserverRegistered inner observer = false
  /-- A failure leaves nothing. -/
  failed : ∀ hasEntry container id,
    (addObserver world hasEntry container id access).hasObserverRegistered container id = false ∨
      (establish world hasEntry container id access).1 = none →
    (addObserver world hasEntry container id access).observations = access.observations ∧
      (addObserver world hasEntry container id access).reachingEntities = access.reachingEntities

theorem Connected.outer_lost (connected : Connected world access) {inner outer observer : String}
    (isContainer : world.domain outer = some .container) (nested : world.Nested inner outer)
    (outside : world.Outside observer outer)
    (lost : access.hasObserverRegistered outer observer = false) :
    access.hasObserverRegistered inner observer = false := by
  apply Bool.eq_false_iff.mpr
  intro isObserver
  have still := connected.registered_outer isContainer nested outside
    (hasObserverRegistered_iff.mp isObserver)
  rw [hasObserverRegistered_iff.mpr still] at lost
  cases lost

theorem Connected.nestedAccess (connected : Connected world access) :
    NestedAccess world access := by
  constructor
  · intro inner outer observer isContainer nested outside isObserver
    apply hasObserverRegistered_iff.mpr
    exact connected.registered_outer isContainer nested outside
      (hasObserverRegistered_iff.mp isObserver)
  · intro event outer observer isContainer outside _ lost inner nested
    exact (connected.step event).outer_lost isContainer nested outside lost
  · intro hasEntry container id failed
    cases isKnown : world.known id with
    | false => simp [ContainerAccess.addObserver, isKnown]
    | true =>
      rcases result : establish world hasEntry container id access with ⟨_ | handles, after⟩
      · have same : ContainerAccess.addObserver world hasEntry container id access = after := by
          simp [ContainerAccess.addObserver, isKnown, result]
        obtain ⟨next, _, rfl⟩ := establish_none connected.sound result
        rw [same]
        exact ⟨rfl, rfl⟩
      · have same : ContainerAccess.addObserver world hasEntry container id access =
            after.enter container id handles := by
          simp [ContainerAccess.addObserver, isKnown, result]
        rw [same, result] at failed
        rcases failed with absent | refused
        · rw [hasObserverRegistered_iff.mpr (registered_enter ..)] at absent
          cases absent
        · cases refused

/-- Whoever has access to a container that is nested in others has access to each of these. -/
theorem run_nestedAccess (world : ContainerWorld) (events : List AccessEvent) :
    NestedAccess world (run (step world) initial events) :=
  (run_invariant_of_step (Connected world) (fun _ event connected => connected.step event)
    Connected.initial events).nestedAccess

/-- Someone is next to the chest. -/
def chestWorld : ContainerWorld where
  known _ := true
  parent entity :=
    if entity = "box" then some "chest"
    else if entity = "chest" ∨ entity = "alice" then some "world"
    else none
  domain entity :=
    if entity = "world" then some .physical
    else if entity = "chest" ∨ entity = "box" then some .container
    else none
  depth entity := if entity = "box" then 2 else if entity = "world" then 0 else 1
  descends := by
    intro entity above isParent
    grind
  arrange observations := observations
  arrange_perm observations := List.Perm.refl observations

-- The box can only be opened after the chest, and both are lost when alice walks away.
example :
    let near : String → String → Bool := fun domain _ => domain = "world"
    let opened := run (step chestWorld) initial
      [.addObserver "box" "alice" near, .addObserver "chest" "alice" near,
        .addObserver "box" "alice" near]
    opened.reachingEntities.map names = [("box", "alice"), ("chest", "alice")] ∧
      (step chestWorld opened (.sever 1)).reachingEntities = [] := by
  decide +kernel

end ContainerAccess

end Cyphesis.Simulation
