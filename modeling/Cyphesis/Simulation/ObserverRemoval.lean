import Cyphesis.Simulation.ContainerDomain

/-!
# Removing an observer

The observation of an inner container is in the entry that those around have of the observer, so
that its removal goes on to the inner one. Meanwhile the entry's observations are pending.
-/

namespace Cyphesis.Simulation

open Cyphesis.Foundation List Option
open Function

namespace ContainerWorld

variable (world : ContainerWorld)

/-- A container is somewhere inside another. -/
def Nested (inner outer : String) : Prop :=
  inner ≠ outer ∧ Reaches world.parent inner outer

/-- Neither the container nor inside of it. -/
def Outside (entity container : String) : Prop :=
  ¬ Reaches world.parent entity container

/-- Domains that are asked on the way down. -/
def asked : Option String → List String → List String
  | _, [] => []
  | domain, ancestor :: rest => domain.toList ++ asked (world.ownDomain ancestor) rest

variable {world} {observer container : String}

theorem findObserverDomain_reaches {domainEntity : Option String} {topObserver : String}
    (top : Reaches world.parent observer topObserver)
    (above : ∀ entity ∈ domainEntity, Reaches world.parent observer entity) :
    Reaches world.parent observer
      (world.findObserverDomain container domainEntity topObserver).1 := by
  fun_induction findObserverDomain world container domainEntity topObserver with
  | case1 => exact top
  | case2 => exact top
  | case3 => exact top
  | case4 => exact above _ rfl
  | case5 topObserver entity _ _ next isParent ih =>
    have here := above entity rfl
    apply ih here
    rintro _ ⟨⟩
    exact here.trans (.of_parent isParent (.refl _ _))

variable {parentDomain : Option String}

variable {result : List String × Option String}

theorem findAncestor_passes {topObserver ancestor : String}
    {passed : List String}
    (top : Reaches world.parent observer topObserver)
    (found : world.findAncestor observer parentDomain topObserver ancestor passed = some result) :
    ∃ upper, result.1 = upper ++ passed ∧ ∀ outer, Reaches world.parent ancestor outer →
      world.Outside observer outer → outer ∈ upper := by
  -- The way ends at an entity that is the observer or above it.
  have ends : ∀ {last : String} {passed : List String} {domain : Option String},
      Reaches world.parent observer last → some (passed, domain) = some result →
      ∃ upper, result.1 = upper ++ passed ∧ ∀ outer, Reaches world.parent last outer →
        world.Outside observer outer → outer ∈ upper := by
    rintro last passed domain isAbove ⟨⟩
    exact ⟨[], rfl, fun outer reaches outside => absurd (isAbove.trans reaches) outside⟩
  fun_induction findAncestor world observer parentDomain topObserver ancestor passed with
  | case1 passed => exact ends (.refl _ _) found
  | case2 ancestor passed _ isParent => exact ends (.of_parent isParent (.refl _ _)) found
  | case3 passed => exact ends top found
  | case4 => cases found
  | case5 ancestor passed _ _ _ next isParent ih =>
    obtain ⟨upper, eq, all⟩ := ih found
    refine ⟨upper ++ [ancestor], by simpa using eq, ?_⟩
    intro outer reaches outside
    by_cases same : ancestor = outer
    · simp [same]
    · obtain ⟨above, isAbove, further⟩ := reaches.parent_of_ne same
      cases isParent.symm.trans isAbove
      exact mem_append_left _ (all outer further outside)

theorem mem_asked {entity last : String} (hasDomain : (world.domain entity).isSome = true)
    (upper : List String) (domain : Option String) (member : entity ∈ upper) :
    entity ∈ world.asked domain (upper ++ [last]) := by
  induction upper generalizing domain with
  | nil => cases member
  | cons first rest ih =>
    rw [cons_append, asked, mem_append]
    rcases List.mem_cons.mp member with rfl | later
    · right
      rw [ownDomain, if_pos hasDomain]
      cases rest with
      | nil => simp [asked]
      | cons => simp [asked]
    · exact .inr (ih _ later)

theorem findAncestor_asks {topObserver outer : String}
    (top : Reaches world.parent observer topObserver)
    (found : world.findAncestor observer parentDomain topObserver container [] = some result)
    (hasDomain : (world.domain outer).isSome = true) (nested : world.Nested container outer)
    (outside : world.Outside observer outer) : outer ∈ world.asked result.2 result.1 := by
  obtain ⟨different, reaches⟩ := nested
  obtain ⟨above, isParent, further⟩ := reaches.parent_of_ne different
  have stops : ∀ {last : String} {domain : Option String}, Reaches world.parent observer last →
      last = container → outer ∈ world.asked domain [] := by
    rintro last domain isAbove rfl
    exact absurd (isAbove.trans reaches) outside
  rw [findAncestor] at found
  split at found
  next same =>
    cases found
    exact stops (.refl _ _) same.symm
  next =>
  split at found
  next isAbove =>
    cases found
    exact stops (.of_parent isAbove (.refl _ _)) rfl
  next =>
  split at found
  next same =>
    cases found
    exact stops top same.symm
  next =>
  split at found
  next => cases found
  next next isNext =>
    cases isParent.symm.trans isNext
    obtain ⟨upper, eq, all⟩ := findAncestor_passes top found
    rw [eq]
    exact mem_asked hasDomain upper _ (all outer further outside)

end ContainerWorld

namespace ContainerAccess

variable {world : ContainerWorld} {access before after : ContainerAccess}
  {container id : String} {observation : Nat}

/-- An entity is an observer of a container. -/
def Registered (access : ContainerAccess) (container id : String) : Prop :=
  ∃ entry ∈ access.reachingEntities, entry.container = container ∧ entry.observer = id

theorem hasObserverRegistered_iff :
    access.hasObserverRegistered container id = true ↔ access.Registered container id := by
  simp [hasObserverRegistered, findEntry, Registered]

theorem findEntry_eq_none_iff :
    access.findEntry container id = none ↔ ¬ access.Registered container id := by
  simp [findEntry, Registered]

variable {entry : ObservationEntry} {change : List Nat → List Nat}

theorem mem_of_findEntry (found : access.findEntry container id = some entry) :
    entry ∈ access.reachingEntities ∧ entry.container = container ∧ entry.observer = id := by
  have named := find?_some found
  simp only [decide_eq_true_eq] at named
  exact ⟨mem_of_find?_eq_some found, named⟩

/-- The container and the observer of an entry. -/
def names (entry : ObservationEntry) : String × String :=
  (entry.container, entry.observer)

/-- There is one entry for each container, and all addresses are old. -/
structure Sound (access : ContainerAccess) : Prop where
  handles : ∀ entry ∈ access.reachingEntities, ∀ observation ∈ entry.disconnectFunctions,
    ∀ observed, access.observations observation = some observed →
      observed.container = entry.container ∧ observed.reacher = entry.observer
  unique : (access.reachingEntities.map names).Nodup
  live : ∀ observation, (access.observations observation).isSome = true → observation < access.next
  closeness : ∀ entry ∈ access.reachingEntities, ∀ observation ∈ entry.closenessObservations,
    observation < access.next
  disconnects : ∀ entry ∈ access.reachingEntities, ∀ observation ∈ entry.disconnectFunctions,
    observation < access.next

theorem Sound.initial : Sound ContainerAccess.initial := by
  constructor
  · intro entry member
    cases member
  · exact nodup_nil
  · intro observation isSome
    cases isSome
  · intro entry member
    cases member
  · intro entry member
    cases member

theorem Sound.eq_of_names (sound : Sound access) {first second : ObservationEntry}
    (isFirst : first ∈ access.reachingEntities) (isSecond : second ∈ access.reachingEntities)
    (same : names first = names second) : first = second :=
  inj_on_of_nodup_map sound.unique isFirst isSecond same

/-- Some observations are gone after it, and nothing is new. -/
structure Shrinks (before after : ContainerAccess) : Prop where
  entries : (after.reachingEntities.map names).Sublist (before.reachingEntities.map names)
  entry : ∀ entry ∈ after.reachingEntities, ∃ old ∈ before.reachingEntities,
    names old = names entry ∧ old.disconnectFunctions = entry.disconnectFunctions ∧
      entry.closenessObservations ⊆ old.closenessObservations
  observation : ∀ observation, after.observations observation = none ∨
    after.observations observation = before.observations observation
  next : after.next = before.next

namespace Shrinks

theorem refl (access : ContainerAccess) : Shrinks access access := by
  constructor
  · exact List.Sublist.refl _
  · exact fun entry member => ⟨entry, member, rfl, rfl, List.Subset.refl _⟩
  · exact fun _ => .inr rfl
  · rfl

theorem trans {middle : ContainerAccess} (first : Shrinks before middle)
    (second : Shrinks middle after) : Shrinks before after := by
  constructor
  · exact second.entries.trans first.entries
  · intro entry member
    obtain ⟨between, isBetween, sameNames, sameHandles, fewer⟩ := second.entry entry member
    obtain ⟨old, isOld, oldNames, oldHandles, fewerStill⟩ := first.entry between isBetween
    exact ⟨old, isOld, oldNames.trans sameNames, oldHandles.trans sameHandles,
      List.Subset.trans fewer fewerStill⟩
  · intro observation
    rcases second.observation observation with none | same
    · exact .inl none
    · rw [same]
      exact first.observation observation
  · exact second.next.trans first.next

section

variable (shrinks : Shrinks before after)

include shrinks

theorem length_le : after.reachingEntities.length ≤ before.reachingEntities.length := by
  simpa using shrinks.entries.length_le

theorem registered (isObserver : after.Registered container id) :
    before.Registered container id := by
  obtain ⟨entry, member, isContainer, isId⟩ := isObserver
  obtain ⟨old, isOld, sameNames, _⟩ := shrinks.entry entry member
  cases Prod.mk.inj sameNames with
  | intro sameContainer sameId =>
    exact ⟨old, isOld, sameContainer.trans isContainer, sameId.trans isId⟩

theorem observed {observed : PathObservation}
    (isObserved : after.observations observation = some observed) :
    before.observations observation = some observed := by
  rcases shrinks.observation observation with none | same
  · rw [none] at isObserved
    cases isObserved
  · exact same.symm.trans isObserved

theorem sound (sound : Sound before) : Sound after := by
  constructor
  · intro entry member observation isHandle observed isObserved
    obtain ⟨old, isOld, sameNames, sameHandles, _⟩ := shrinks.entry entry member
    obtain ⟨sameContainer, sameId⟩ := Prod.mk.inj sameNames
    rw [← sameContainer, ← sameId]
    exact sound.handles old isOld observation (sameHandles ▸ isHandle) observed
      (shrinks.observed isObserved)
  · exact shrinks.entries.nodup sound.unique
  · intro observation isSome
    obtain ⟨observed, isObserved⟩ := Option.isSome_iff_exists.mp isSome
    rw [shrinks.next]
    exact sound.live observation (by simp [shrinks.observed isObserved])
  · intro entry member observation isObservation
    obtain ⟨old, isOld, _, _, fewer⟩ := shrinks.entry entry member
    rw [shrinks.next]
    exact sound.closeness old isOld observation (fewer isObservation)
  · intro entry member observation isHandle
    obtain ⟨old, isOld, _, sameHandles, _⟩ := shrinks.entry entry member
    rw [shrinks.next]
    exact sound.disconnects old isOld observation (sameHandles ▸ isHandle)

end

theorem foldl {α : Type} {change : ContainerAccess → α → ContainerAccess}
    (each : ∀ current x, Shrinks current (change current x)) (list : List α)
    (access : ContainerAccess) : Shrinks access (list.foldl change access) := by
  apply run_invariant_of_step (Shrinks access) _ (refl access)
  intro current x shrinks
  exact shrinks.trans (each current x)

end Shrinks

section

variable (access)

theorem release_shrinks (observation : Nat) : Shrinks access (access.release observation) := by
  constructor
  · exact List.Sublist.refl _
  · exact fun entry member => ⟨entry, member, rfl, rfl, List.Subset.refl _⟩
  · intro x
    by_cases same : x = observation
    · subst same
      exact .inl (update_self ..)
    · exact .inr (update_of_ne same _ _)
  · rfl

theorem names_modifyEntry (container id : String)
    (change : List Nat → List Nat) :
    (access.modifyEntry container id change).reachingEntities.map names =
      access.reachingEntities.map names := by
  rw [modifyEntry, List.map_map]
  apply map_congr_left
  intro entry _
  simp only [comp, names]
  split <;> rfl

end

theorem mem_modifyEntry
    (member : entry ∈ (access.modifyEntry container id change).reachingEntities) :
    ∃ old ∈ access.reachingEntities, names old = names entry ∧
      old.disconnectFunctions = entry.disconnectFunctions ∧
      (names old = (container, id) ∧
          entry.closenessObservations = change old.closenessObservations ∨
        names old ≠ (container, id) ∧
          entry.closenessObservations = old.closenessObservations) := by
  obtain ⟨old, isOld, rfl⟩ := List.mem_map.mp member
  refine ⟨old, isOld, ?_⟩
  by_cases named : old.container = container ∧ old.observer = id
  · simp [named, names]
  · simp [named, names]

section

variable (access)

theorem exists_modifyEntry (container id : String) {held : Nat}
    (keeps : ∀ observations, held ∈ observations → held ∈ change observations)
    (member : entry ∈ access.reachingEntities) (isHeld : held ∈ entry.closenessObservations) :
    ∃ new ∈ (access.modifyEntry container id change).reachingEntities, names new = names entry ∧
      held ∈ new.closenessObservations := by
  refine ⟨_, List.mem_map_of_mem member, ?_, ?_⟩
  · split
    · rfl
    · rfl
  · split
    · exact keeps _ isHeld
    · exact isHeld

theorem disconnect_shrinks (observation : Nat) :
    Shrinks access (access.disconnect observation) := by
  unfold disconnect
  split
  · exact .refl access
  next observed _ =>
    have fewer : Shrinks access (access.modifyEntry observed.domain observed.reacher
        (·.filter (· ≠ observation))) := by
      constructor
      · rw [names_modifyEntry]
      · intro entry member
        obtain ⟨old, isOld, sameNames, sameHandles, ⟨_, eq⟩ | ⟨_, eq⟩⟩ := mem_modifyEntry member
        · refine ⟨old, isOld, sameNames, sameHandles, ?_⟩
          rw [eq]
          exact filter_subset_self ..
        · exact ⟨old, isOld, sameNames, sameHandles, eq ▸ List.Subset.refl _⟩
      · exact fun _ => .inr rfl
      · rfl
    exact fewer.trans (release_shrinks _ _)

theorem eraseEntry_shrinks (container id : String) :
    Shrinks access (access.eraseEntry container id) := by
  constructor
  · exact List.filter_sublist.map names
  · exact fun entry member =>
      ⟨entry, mem_of_mem_filter member, rfl, rfl, List.Subset.refl _⟩
  · exact fun _ => .inr rfl
  · rfl

end

theorem removeObserverWithin_shrinks (world : ContainerWorld) (depth : Nat)
    (access : ContainerAccess) (container id : String) :
    Shrinks access (removeObserverWithin world depth access container id) := by
  induction depth generalizing access container id with
  | zero => exact .refl access
  | succ depth ih =>
    rw [removeObserverWithin]
    split
    · exact .refl access
    next entry _ =>
      apply (eraseEntry_shrinks access container id).trans
      apply (Shrinks.foldl disconnect_shrinks entry.disconnectFunctions _).trans
      apply Shrinks.foldl
      intro current observation
      split
      · exact .refl current
      · exact (release_shrinks current observation).trans (ih _ _ _)

/-- The observation was made for an observer of this container. -/
def ObservedFor (access : ContainerAccess) (observation : Nat) (container id : String) : Prop :=
  ∃ observed, access.observations observation = some observed ∧
    observed.container = container ∧ observed.reacher = id

/-- An inner one is in an outer entry. -/
def Through (access : ContainerAccess) (outer inner id : String) : Prop :=
  ∃ entry ∈ access.reachingEntities, names entry = (outer, id) ∧
    ∃ observation ∈ entry.closenessObservations, access.ObservedFor observation inner id

/-- In that entry, or a pending one. -/
def Linked (world : ContainerWorld) (spared : Option (String × String)) (pending : List Nat)
    (access : ContainerAccess) : Prop :=
  ∀ inner id, access.Registered inner id → spared ≠ some (inner, id) →
    ∀ outer, world.domain outer = some .container → world.Nested inner outer →
      world.Outside id outer → access.Through outer inner id ∨
        ∃ observation ∈ pending, access.ObservedFor observation inner id

theorem Registered.of_names (member : entry ∈ access.reachingEntities)
    (named : names entry = (container, id)) : access.Registered container id :=
  ⟨entry, member, Prod.mk.inj named⟩

namespace Linked

variable {pending : List Nat}

theorem of_not_registered (linked : Linked world (some (container, id)) pending access)
    (gone : ¬ access.Registered container id) : Linked world none pending access := by
  intro inner observer isObserver _
  apply linked inner observer isObserver
  rintro ⟨⟩
  exact gone isObserver

theorem spare (linked : Linked world none pending access) (spared : Option (String × String)) :
    Linked world spared pending access :=
  fun inner observer isObserver _ => linked inner observer isObserver (some_ne_none _).symm

theorem skip (linked : Linked world none (observation :: pending) access)
    (released : access.observations observation = none) : Linked world none pending access := by
  intro inner observer isObserver free outer isContainer nested outside
  rcases linked inner observer isObserver free outer isContainer nested outside with
    through | ⟨held, member, observed, isObserved, names⟩
  · exact .inl through
  · rcases List.mem_cons.mp member with rfl | later
    · rw [released] at isObserved
      cases isObserved
    · exact .inr ⟨held, later, observed, isObserved, names⟩

variable {observed : PathObservation}

theorem observedFor_release {held : Nat} {inner observer : String}
    (isObserved : access.observations observation = some observed)
    (different : (observed.container, observed.reacher) ≠ (inner, observer))
    (holds : access.ObservedFor held inner observer) :
    (access.release observation).ObservedFor held inner observer := by
  obtain ⟨entry, isEntry, isInner, isObserver⟩ := holds
  refine ⟨entry, ?_, isInner, isObserver⟩
  have other : held ≠ observation := by
    rintro rfl
    cases isObserved.symm.trans isEntry
    exact different (Prod.ext isInner isObserver)
  exact (update_of_ne other _ _).trans isEntry

theorem release
    (linked : Linked world none (observation :: pending) access)
    (isObserved : access.observations observation = some observed) :
    Linked world (some (observed.container, observed.reacher)) pending
      (access.release observation) := by
  intro inner observer isObserver free outer isContainer nested outside
  have different : (observed.container, observed.reacher) ≠ (inner, observer) :=
    fun same => free (congrArg some same)
  rcases linked inner observer isObserver (some_ne_none _).symm outer isContainer nested
    outside with ⟨entry, member, named, held, isHeld, holds⟩ | ⟨held, member, holds⟩
  · exact .inl ⟨entry, member, named, held, isHeld, observedFor_release isObserved different holds⟩
  · rcases List.mem_cons.mp member with rfl | later
    · obtain ⟨_, isEntry, isInner, isId⟩ := holds
      cases isObserved.symm.trans isEntry
      exact absurd (Prod.ext isInner isId) different
    · exact .inr ⟨held, later, observedFor_release isObserved different holds⟩

variable {observations : List Nat}

theorem eraseEntry (sound : Sound access)
    (linked : Linked world (some (container, id)) pending access) {entry : ObservationEntry}
    (found : access.findEntry container id = some entry)
    (all : ∀ observation ∈ entry.closenessObservations, observation ∈ observations) :
    Linked world none (observations ++ pending) (access.eraseEntry container id) := by
  intro inner observer isObserver _ outer isContainer nested outside
  obtain ⟨member, isNamed⟩ := mem_of_findEntry found
  have free : some (container, id) ≠ some (inner, observer) := by
    rintro ⟨⟩
    obtain ⟨still, isStill, isInner, isId⟩ := isObserver
    have kept := (List.mem_filter.mp isStill).2
    simp [isInner, isId] at kept
  have wasObserver := (eraseEntry_shrinks access container id).registered isObserver
  rcases linked inner observer wasObserver free outer isContainer nested outside with
    ⟨holder, isHolder, named, held, isHeld, holds⟩ | ⟨held, isPending, holds⟩
  · by_cases erased : names holder = (container, id)
    · have same : holder = entry := by
        apply sound.eq_of_names isHolder member
        rw [erased]
        exact Prod.ext isNamed.1.symm isNamed.2.symm
      subst same
      exact .inr ⟨held, mem_append_left _ (all held isHeld), holds⟩
    · refine .inl ⟨holder, List.mem_filter.mpr ⟨isHolder, ?_⟩, named, held, isHeld, holds⟩
      apply decide_eq_true
      rintro ⟨isContainer, isId⟩
      exact erased (Prod.ext isContainer isId)
  · exact .inr ⟨held, mem_append_right _ isPending, holds⟩

theorem disconnect (linked : Linked world none pending access)
    (gone : ∀ observed, access.observations observation = some observed →
      ¬ access.Registered observed.container observed.reacher) :
    Linked world none pending (access.disconnect observation) := by
  intro inner observer isObserver _ outer isContainer nested outside
  have wasObserver := (disconnect_shrinks access observation).registered isObserver
  unfold ContainerAccess.disconnect
  split
  · exact linked inner observer wasObserver (some_ne_none _).symm outer isContainer nested outside
  next observed isObserved =>
    have different : (observed.container, observed.reacher) ≠ (inner, observer) := by
      intro same
      obtain ⟨isInner, isId⟩ := Prod.mk.inj same
      exact gone observed isObserved (isInner ▸ isId ▸ wasObserver)
    rcases linked inner observer wasObserver (some_ne_none _).symm outer isContainer nested
      outside with ⟨entry, member, named, held, isHeld, holds⟩ | ⟨held, member, holds⟩
    · have other : held ≠ observation := by
        rintro rfl
        obtain ⟨_, isEntry, isInner, isId⟩ := holds
        cases isObserved.symm.trans isEntry
        exact different (Prod.ext isInner isId)
      have keeps : ∀ observations : List Nat, held ∈ observations →
          held ∈ observations.filter (· ≠ observation) :=
        fun _ isOld => List.mem_filter.mpr ⟨isOld, decide_eq_true other⟩
      obtain ⟨new, isNew, sameNames, stillHeld⟩ := exists_modifyEntry access observed.domain
        observed.reacher keeps member isHeld
      exact .inl ⟨new, isNew, sameNames.trans named, held, stillHeld,
        observedFor_release isObserved different holds⟩
    · exact .inr ⟨held, member, observedFor_release isObserved different holds⟩

theorem disconnectAll (linked : Linked world none pending access)
    (gone : ¬ access.Registered container id)
    (own : ∀ observation ∈ observations, ∀ observed,
      access.observations observation = some observed →
        observed.container = container ∧ observed.reacher = id) :
    Linked world none pending (observations.foldl ContainerAccess.disconnect access) := by
  induction observations generalizing access with
  | nil => exact linked
  | cons first rest ih =>
    have shrinks := disconnect_shrinks access first
    apply ih
    · apply linked.disconnect
      intro observed isObserved
      obtain ⟨isContainer, isId⟩ := own first mem_cons_self observed isObserved
      rw [isContainer, isId]
      exact gone
    · exact fun isObserver => gone (shrinks.registered isObserver)
    · intro observation member observed isObserved
      exact own observation (mem_cons_of_mem first member) observed (shrinks.observed isObserved)

end Linked

/-- It leaves all those it was held by. -/
theorem removeObserverWithin_linked (depth : Nat) {access : ContainerAccess} {container id : String}
    {pending : List Nat} (enough : access.reachingEntities.length ≤ depth) (sound : Sound access)
    (linked : Linked world (some (container, id)) pending access) :
    Linked world none pending (removeObserverWithin world depth access container id) := by
  induction depth generalizing access container id pending with
  | zero =>
    apply linked.of_not_registered
    rintro ⟨entry, member, _⟩
    rw [List.length_eq_zero_iff.mp (Nat.le_zero.mp enough)] at member
    cases member
  | succ depth ih =>
    -- The pending observations of the entry are gone through one after the other.
    have each : ∀ {callback : ContainerAccess → Nat → ContainerAccess},
        (∀ current observation, current.observations observation = none →
          callback current observation = current) →
        (∀ current observation severed, current.observations observation = some severed →
          callback current observation = removeObserverWithin world depth
            (current.release observation) severed.container severed.reacher) →
        ∀ (list : List Nat) (current : ContainerAccess), Sound current →
          current.reachingEntities.length ≤ depth →
          Linked world none (list ++ pending) current →
          Linked world none pending (list.foldl callback current) := by
      intro callback skips calls list
      induction list with
      | nil => exact fun current _ _ linked => linked
      | cons first rest rest_ih =>
        intro current sound short linked
        rw [foldl_cons]
        cases isObserved : current.observations first with
        | none =>
          rw [skips current first isObserved]
          exact rest_ih current sound short (linked.skip isObserved)
        | some severed =>
          have released := release_shrinks current first
          have shrinks := released.trans (removeObserverWithin_shrinks world depth
            (current.release first) severed.container severed.reacher)
          rw [calls current first severed isObserved]
          apply rest_ih
          · exact shrinks.sound sound
          · exact shrinks.length_le.trans short
          · apply ih (released.length_le.trans short) (released.sound sound)
            exact linked.release isObserved
    rw [removeObserverWithin]
    split
    next notFound => exact linked.of_not_registered (findEntry_eq_none_iff.mp notFound)
    next entry found =>
      obtain ⟨member, isContainer, isId⟩ := mem_of_findEntry found
      have erased : Linked world none (world.arrange entry.closenessObservations ++ pending)
          (access.eraseEntry container id) :=
        linked.eraseEntry sound found fun _ => (world.arrange_perm _).mem_iff.mpr
      have gone : ¬ (access.eraseEntry container id).Registered container id := by
        rintro ⟨still, isStill, named⟩
        exact of_decide_eq_true (List.mem_filter.mp isStill).2 named
      have shorter : (access.eraseEntry container id).reachingEntities.length ≤ depth := by
        apply Nat.le_of_lt_succ
        apply Nat.lt_of_lt_of_le _ enough
        apply List.length_filter_lt_length_iff_exists.mpr
        exact ⟨entry, member, by simp [isContainer, isId]⟩
      have shrinks := Shrinks.foldl disconnect_shrinks entry.disconnectFunctions
        (access.eraseEntry container id)
      apply each
      · intro current observation released
        rw [released]
      · intro current observation severed isObserved
        rw [isObserved]
      · exact shrinks.sound ((eraseEntry_shrinks access container id).sound sound)
      · exact shrinks.length_le.trans shorter
      · apply erased.disconnectAll gone
        intro observation isHandle observed isObserved
        rw [← isContainer, ← isId]
        exact sound.handles entry member observation isHandle observed isObserved

end ContainerAccess

end Cyphesis.Simulation
