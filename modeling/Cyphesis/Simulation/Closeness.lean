import Cyphesis.Foundation.Run
import Mathlib.Data.List.Sort

/-!
# Closeness observations of a container

A container lets an entity observe that it stays close to one of the things inside.
-/

namespace Cyphesis.Simulation

open Cyphesis.Foundation List
open Function

/-- `ClosenessObserverEntry`, without its callback. -/
structure ClosenessObserver where
  reacherEntityId : String
  target : Nat

/-- Observations of a container. -/
structure Closeness where
  /-- The things in the container. -/
  contains : List Nat
  /-- The entities that reach into the container. -/
  reachingEntities : List (String × List Nat)
  /-- `m_closenessObservations` -/
  observations : Nat → Option ClosenessObserver
  next : Nat
  invoked : List Nat
  readReleased : Bool

/-- What happens to a domain whose observations are watched. -/
inductive ClosenessEvent where
  | addEntity (child : Nat)
  /-- Callbacks disconnect what `callback` says. -/
  | removeEntity (child : Nat) (callback : Nat → List Nat)
  | addObserver (id : String)
  | removeObserver (id : String) (callback : Nat → List Nat)
  | observeCloseness (reacher : String) (target : Nat)
  /-- A disconnect function is called. -/
  | disconnect (observation : Nat)

namespace Closeness

def initial : Closeness :=
  { contains := [], reachingEntities := [], observations := fun _ => none, next := 0,
    invoked := [], readReleased := false }

/-- Those of an entity that reaches in. -/
def closenessObservations (table : Closeness) (id : String) : List Nat :=
  ((table.reachingEntities.find? (·.1 = id)).map Prod.snd).getD []

/-- Change the observations of an entity. -/
def modifyEntry (table : Closeness) (id : String) (change : List Nat → List Nat) : Closeness :=
  { table with
    reachingEntities := table.reachingEntities.map fun entry =>
      if entry.1 = id then (entry.1, change entry.2) else entry }

/-- Take it from the map, and release it. -/
def release (table : Closeness) (observation : Nat) : Closeness :=
  { table with observations := update table.observations observation none }

/-- Function that `observeCloseness` returns. -/
def disconnect (table : Closeness) (observation : Nat) : Closeness :=
  match table.observations observation with
  | none => table
  | some entry =>
    (table.modifyEntry entry.reacherEntityId (·.filter (· ≠ observation))).release observation

variable (callback : Nat → List Nat)

/-- Call the callback of an observation. -/
def invoke (table : Closeness) (observation : Nat) : Closeness :=
  (callback observation).foldl disconnect { table with invoked := table.invoked ++ [observation] }

def observeCloseness (table : Closeness) (reacher : String) (target : Nat) : Closeness :=
  if reacher ∈ table.reachingEntities.map Prod.fst ∧ target ∈ table.contains then
    { table.modifyEntry reacher (table.next :: ·) with
      observations := update table.observations table.next (some ⟨reacher, target⟩)
      next := table.next + 1 }
  else table

/-- The entry is made or taken over. -/
def addObserver (table : Closeness) (id : String) : Closeness :=
  if id ∈ table.reachingEntities.map Prod.fst then table
  else
    { table with
      reachingEntities := table.reachingEntities.orderedInsert
        (fun first second => first.1 ≤ second.1) (id, []) }

/-- Off the map before the callback. -/
def removeObserver (table : Closeness) (id : String) (callback : Nat → List Nat) : Closeness :=
  (table.closenessObservations id).foldl
    (fun current observation =>
      match current.observations observation with
      | none => current
      | some _ => invoke callback (current.release observation) observation)
    { table with reachingEntities := table.reachingEntities.filter (·.1 ≠ id) }

/-- Taken from the map, not the entry. -/
def sever (id : String) (current : Closeness) (observation : Nat) :
    Closeness :=
  if observation ∈ current.closenessObservations id then
    match current.observations observation with
    | none => { current with readReleased := true }
    | some _ => invoke callback (current.release observation) observation
  else current

/-- Loop in `removeEntity`, for one entity. -/
def severAll (child : Nat) (current : Closeness) (id : String) :
    Closeness :=
  let closenessObservations := current.closenessObservations id
  let toRemove := closenessObservations.filter fun observation =>
    (current.observations observation).any (·.target = child)
  toRemove.foldl (sever callback id)
    { current with
      readReleased := current.readReleased ||
        closenessObservations.any fun observation => (current.observations observation).isNone }

def removeEntity (table : Closeness) (child : Nat) (callback : Nat → List Nat) : Closeness :=
  (table.reachingEntities.map Prod.fst).foldl (severAll callback child)
    { table with contains := table.contains.filter (· ≠ child) }

def step (table : Closeness) : ClosenessEvent → Closeness
  | .addEntity child => { table with contains := child :: table.contains }
  | .removeEntity child callback => table.removeEntity child callback
  | .addObserver id => table.addObserver id
  | .removeObserver id callback => table.removeObserver id callback
  | .observeCloseness reacher target => table.observeCloseness reacher target
  | .disconnect observation => table.disconnect observation

/-- In the map, and callbacks called once. -/
structure NeverDangling (table : Closeness) : Prop where
  live : ∀ entry ∈ table.reachingEntities, ∀ observation ∈ entry.2,
    (table.observations observation).isSome = true
  unread : table.readReleased = false
  once : ∀ observation, table.invoked.count observation ≤ 1

/-- Nothing observes what is taken out. -/
def Unobserved (table : Closeness) : ClosenessEvent → Prop
  | .removeEntity child _ => ∀ entry ∈ table.reachingEntities, ∀ observation ∈ entry.2,
      ∀ observer ∈ table.observations observation, observer.target ≠ child
  | _ => True

instance (table : Closeness) : ∀ event, Decidable (table.Unobserved event)
  | .removeEntity _ _ => inferInstanceAs (Decidable (∀ _ ∈ _, _))
  | .addEntity _ => isTrue trivial
  | .addObserver _ => isTrue trivial
  | .removeObserver _ _ => isTrue trivial
  | .observeCloseness _ _ => isTrue trivial
  | .disconnect _ => isTrue trivial

/-- In its own entry, released first. -/
structure Kept (table : Closeness) : Prop where
  live : ∀ entry ∈ table.reachingEntities, ∀ observation ∈ entry.2,
    (table.observations observation).isSome = true
  own : ∀ entry ∈ table.reachingEntities, ∀ observation ∈ entry.2, ∀ observer,
    table.observations observation = some observer → observer.reacherEntityId = entry.1
  known : ∀ observation, (table.observations observation).isSome = true → observation < table.next
  unread : table.readReleased = false
  once : table.invoked.Nodup
  released : ∀ observation ∈ table.invoked,
    observation < table.next ∧ table.observations observation = none

namespace Kept

variable {table : Closeness} {id : String} {observation : Nat}

theorem neverDangling (kept : Kept table) : NeverDangling table := by
  constructor
  · exact kept.live
  · exact kept.unread
  · intro observation
    exact List.nodup_iff_count_le_one.mp kept.once observation

theorem initial : Kept Closeness.initial := by
  constructor
  · intro entry member
    cases member
  · intro entry member
    cases member
  · intro observation live
    cases live
  · rfl
  · exact nodup_nil
  · intro observation member
    cases member

theorem release (kept : Kept table)
    (absent : ∀ entry ∈ table.reachingEntities, observation ∉ entry.2) :
    Kept (table.release observation) := by
  have other : ∀ entry ∈ table.reachingEntities, ∀ x ∈ entry.2,
      (table.release observation).observations x = table.observations x := by
    intro entry member x isObservation
    apply update_of_ne
    rintro rfl
    exact absent entry member isObservation
  have fewer : ∀ x, (table.release observation).observations x = none ∨
      (table.release observation).observations x = table.observations x := by
    intro x
    by_cases same : x = observation
    · subst same
      exact .inl (update_self ..)
    · exact .inr (update_of_ne same _ _)
  constructor
  · intro entry member x isObservation
    rw [other entry member x isObservation]
    exact kept.live entry member x isObservation
  · intro entry member x isObservation
    rw [other entry member x isObservation]
    exact kept.own entry member x isObservation
  · intro x isSome
    rcases fewer x with none | same
    · rw [none] at isSome
      cases isSome
    · exact kept.known x (same ▸ isSome)
  · exact kept.unread
  · exact kept.once
  · intro x member
    obtain ⟨below, none⟩ := kept.released x member
    refine ⟨below, ?_⟩
    rcases fewer x with gone | same
    · exact gone
    · exact same.trans none

theorem mem_modifyEntry {change : List Nat → List Nat} {entry : String × List Nat}
    (member : entry ∈ (table.modifyEntry id change).reachingEntities) :
    ∃ before ∈ table.reachingEntities, before.1 = entry.1 ∧
      (entry.1 = id ∧ entry.2 = change before.2 ∨ entry.1 ≠ id ∧ entry.2 = before.2) := by
  obtain ⟨before, isBefore, rfl⟩ := List.mem_map.mp member
  refine ⟨before, isBefore, ?_⟩
  by_cases same : before.1 = id
  · simp [same]
  · simp [same]

theorem disconnect (kept : Kept table) (observation : Nat) : Kept
    (table.disconnect observation) := by
  unfold Closeness.disconnect
  split
  · exact kept
  next observer isObserver =>
    -- The entry of its entity is the only one that refers to the observation.
    have erased : ∀ entry ∈ (table.modifyEntry observer.reacherEntityId
        (·.filter (· ≠ observation))).reachingEntities,
        observation ∉ entry.2 ∧ ∃ before ∈ table.reachingEntities, before.1 = entry.1 ∧
          ∀ x ∈ entry.2, x ∈ before.2 := by
      intro entry member
      obtain ⟨before, isBefore, sameId, ⟨_, eq⟩ | ⟨elsewhere, eq⟩⟩ := mem_modifyEntry member
      · rw [eq]
        refine ⟨by simp, before, isBefore, sameId, ?_⟩
        exact fun x isObservation => mem_of_mem_filter isObservation
      · rw [eq]
        refine ⟨?_, before, isBefore, sameId, fun _ isObservation => isObservation⟩
        intro isObservation
        exact elsewhere (sameId ▸ (kept.own before isBefore _ isObservation _ isObserver).symm)
    have shrunk : Kept (table.modifyEntry observer.reacherEntityId
        (·.filter (· ≠ observation))) := by
      constructor
      · intro entry member x isObservation
        obtain ⟨_, before, isBefore, _, subset⟩ := erased entry member
        exact kept.live before isBefore x (subset x isObservation)
      · intro entry member x isObservation found isFound
        obtain ⟨_, before, isBefore, sameId, subset⟩ := erased entry member
        exact (kept.own before isBefore x (subset x isObservation) found isFound).trans sameId
      · exact kept.known
      · exact kept.unread
      · exact kept.once
      · exact kept.released
    exact shrunk.release fun entry member => (erased entry member).1

theorem disconnects (kept : Kept table) (observations : List Nat) :
    Kept (observations.foldl Closeness.disconnect table) := by
  induction observations generalizing table with
  | nil => exact kept
  | cons observation rest ih => exact ih (kept.disconnect observation)

theorem invoke (kept : Kept table) (callback : Nat → List Nat) (below : observation < table.next)
    (gone : table.observations observation = none) (fresh : observation ∉ table.invoked) :
    Kept (Closeness.invoke callback table observation) := by
  apply disconnects
  constructor
  · exact kept.live
  · exact kept.own
  · exact kept.known
  · exact kept.unread
  · exact List.nodup_append.mpr ⟨kept.once, nodup_singleton _, by
      rintro x isInvoked _ isNew rfl
      exact fresh (List.mem_singleton.mp isNew ▸ isInvoked)⟩
  · intro x member
    rcases List.mem_append.mp member with old | isNew
    · exact kept.released x old
    · rw [List.mem_singleton.mp isNew]
      exact ⟨below, gone⟩

/-- Observations are only released. -/
structure Shrinks (table after : Closeness) : Prop where
  keys : after.reachingEntities.map Prod.fst = table.reachingEntities.map Prod.fst
  observations : ∀ x, after.observations x = none ∨ after.observations x = table.observations x

theorem Shrinks.trans {before table after : Closeness} (first : Shrinks before table)
    (second : Shrinks table after) : Shrinks before after := by
  constructor
  · exact second.keys.trans first.keys
  · intro x
    rcases second.observations x with gone | same
    · exact .inl gone
    · rw [same]
      exact first.observations x

section

variable (table) (observation)

theorem shrinks_release : Shrinks table (table.release observation) := by
  constructor
  · rfl
  · intro x
    by_cases same : x = observation
    · subst same
      exact .inl (update_self ..)
    · exact .inr (update_of_ne same _ _)

theorem shrinks_disconnect : Shrinks table (table.disconnect observation) := by
  unfold Closeness.disconnect
  split
  · exact ⟨rfl, fun _ => .inr rfl⟩
  next observer _ =>
    have modified : Shrinks table
        (table.modifyEntry observer.reacherEntityId (·.filter (· ≠ observation))) := by
      constructor
      · simp only [modifyEntry, map_map]
        apply map_congr_left
        intro entry _
        simp only [comp_apply]
        split
        · rfl
        · rfl
      · exact fun _ => .inr rfl
    exact modified.trans (shrinks_release _ observation)

end

theorem shrinks_invoke (callback : Nat → List Nat) (table : Closeness) (observation : Nat) :
    Shrinks table (Closeness.invoke callback table observation) := by
  apply run_invariant_of_step (Shrinks table)
  · intro current other shrinks
    exact shrinks.trans (shrinks_disconnect current other)
  · exact ⟨rfl, fun _ => .inr rfl⟩

theorem mem_closenessObservations (member : observation ∈ table.closenessObservations id) :
    ∃ entry ∈ table.reachingEntities, entry.1 = id ∧ observation ∈ entry.2 := by
  unfold closenessObservations at member
  cases found : table.reachingEntities.find? (·.1 = id) with
  | none => simp [found] at member
  | some entry =>
    refine ⟨entry, mem_of_find?_eq_some found, by simpa using find?_some found, ?_⟩
    simpa [found] using member

section

variable (kept : Kept table)

include kept

theorem removeObserver (id : String) (callback : Nat → List Nat) :
    Kept (table.removeObserver id callback) := by
  -- What remains to be visited are observations of the entity, whose entry is gone.
  have each : ∀ (observations : List Nat) (current : Closeness), Kept current →
      (id ∉ current.reachingEntities.map Prod.fst) →
      (∀ x ∈ observations, ∀ observer, current.observations x = some observer →
        observer.reacherEntityId = id) →
      Kept (observations.foldl (fun current observation =>
        match current.observations observation with
        | none => current
        | some _ => Closeness.invoke callback (current.release observation) observation)
        current) := by
    intro observations
    induction observations with
    | nil => exact fun _ kept _ _ => kept
    | cons first rest ih =>
      intro current kept absent own
      have ownRest : ∀ x ∈ rest, ∀ observer, current.observations x = some observer →
          observer.reacherEntityId = id :=
        fun x member => own x (mem_cons_of_mem first member)
      rw [foldl_cons]
      cases isFirst : current.observations first with
      | none => exact ih current kept absent ownRest
      | some observer =>
        have unreferred : ∀ entry ∈ current.reachingEntities, first ∉ entry.2 := by
          intro entry member isObservation
          have sameId := kept.own entry member first isObservation observer isFirst
          have isId := own first mem_cons_self observer isFirst
          exact absent (List.mem_map.mpr ⟨entry, member, sameId.symm.trans isId⟩)
        have below : first < current.next := kept.known first (by rw [isFirst]; rfl)
        have fresh : first ∉ current.invoked := by
          intro member
          rw [(kept.released first member).2] at isFirst
          cases isFirst
        have shrinks := (shrinks_release current first).trans
          (shrinks_invoke callback (current.release first) first)
        apply ih
        · exact (kept.release unreferred).invoke callback below (update_self ..) fresh
        · rw [shrinks.keys]
          exact absent
        · intro x member found isFound
          rcases shrinks.observations x with gone | same
          · rw [gone] at isFound
            cases isFound
          · exact ownRest x member found (same.symm.trans isFound)
  apply each
  · constructor
    · exact fun entry member => kept.live entry (mem_of_mem_filter member)
    · exact fun entry member => kept.own entry (mem_of_mem_filter member)
    · exact kept.known
    · exact kept.unread
    · exact kept.once
    · exact kept.released
  · simp
  · intro x member observer isObserver
    obtain ⟨entry, isEntry, isId, isObservation⟩ := mem_closenessObservations member
    exact (kept.own entry isEntry x isObservation observer isObserver).trans isId

theorem addObserver (id : String) : Kept (table.addObserver id) := by
  unfold Closeness.addObserver
  split
  · exact kept
  · have entries : ∀ entry ∈ table.reachingEntities.orderedInsert
        (fun first second => first.1 ≤ second.1) (id, []),
        entry ∈ table.reachingEntities ∨ entry.2 = [] := by
      intro entry member
      rcases (mem_orderedInsert _).mp member with rfl | old
      · exact .inr rfl
      · exact .inl old
    constructor
    · intro entry member x isObservation
      rcases entries entry member with old | empty
      · exact kept.live entry old x isObservation
      · rw [empty] at isObservation
        cases isObservation
    · intro entry member x isObservation
      rcases entries entry member with old | empty
      · exact kept.own entry old x isObservation
      · rw [empty] at isObservation
        cases isObservation
    · exact kept.known
    · exact kept.unread
    · exact kept.once
    · exact kept.released

theorem observeCloseness (reacher : String) (target : Nat) :
    Kept (table.observeCloseness reacher target) := by
  unfold Closeness.observeCloseness
  split
  · have old : ∀ x, x ≠ table.next →
        update table.observations table.next (some ⟨reacher, target⟩) x =
          table.observations x := fun x different => update_of_ne different _ _
    have below : ∀ entry ∈ table.reachingEntities, ∀ x ∈ entry.2, x ≠ table.next :=
      fun entry member x isObservation => (kept.known x (kept.live entry member x isObservation)).ne
    have entries : ∀ entry ∈ (table.modifyEntry reacher (table.next :: ·)).reachingEntities,
        ∀ x ∈ entry.2, (x = table.next ∧ entry.1 = reacher) ∨
          ∃ before ∈ table.reachingEntities, before.1 = entry.1 ∧ x ∈ before.2 := by
      intro entry member x isObservation
      obtain ⟨before, isBefore, sameId, ⟨isReacher, eq⟩ | ⟨_, eq⟩⟩ := mem_modifyEntry member
      · rw [eq] at isObservation
        rcases List.mem_cons.mp isObservation with rfl | isOld
        · exact .inl ⟨rfl, isReacher⟩
        · exact .inr ⟨before, isBefore, sameId, isOld⟩
      · rw [eq] at isObservation
        exact .inr ⟨before, isBefore, sameId, isObservation⟩
    constructor
    · intro entry member x isObservation
      rcases entries entry member x isObservation with ⟨rfl, _⟩ | ⟨before, isBefore, _, isOld⟩
      · simp
      · have isSome := kept.live before isBefore x isOld
        rw [← old x (below before isBefore x isOld)] at isSome
        exact isSome
    · intro entry member x isObservation observer isObserver
      rcases entries entry member x isObservation with
        ⟨rfl, isReacher⟩ | ⟨before, isBefore, sameId, isOld⟩
      · have isNew : update table.observations table.next (some ⟨reacher, target⟩)
            table.next = some observer := isObserver
        rw [update_self] at isNew
        cases isNew
        exact isReacher.symm
      · have isBefore' := (old x (below before isBefore x isOld)).symm.trans isObserver
        exact (kept.own before isBefore x isOld observer isBefore').trans sameId
    · intro x isSome
      by_cases same : x = table.next
      · subst same
        exact Nat.lt_succ_self _
      · have isOld : (table.observations x).isSome = true := old x same ▸ isSome
        exact (kept.known x isOld).trans (Nat.lt_succ_self _)
    · exact kept.unread
    · exact kept.once
    · intro x member
      obtain ⟨isBelow, gone⟩ := kept.released x member
      exact ⟨isBelow.trans (Nat.lt_succ_self _), (old x isBelow.ne).trans gone⟩
  · exact kept

section

variable {child : Nat}
  (unobserved : ∀ entry ∈ table.reachingEntities, ∀ observation ∈ entry.2,
    ∀ observer ∈ table.observations observation, observer.target ≠ child)

include unobserved

theorem severAll_of_unobserved (id : String) : severAll callback child table id = table := by
  have none : (table.closenessObservations id).filter (fun observation =>
      (table.observations observation).any (·.target = child)) = [] := by
    apply List.filter_eq_nil_iff.mpr
    intro x member
    obtain ⟨entry, isEntry, _, isObservation⟩ := mem_closenessObservations member
    cases isObserver : table.observations x with
    | none => simp
    | some observer =>
      simpa using unobserved entry isEntry x isObservation observer isObserver
  have read : ((table.closenessObservations id).any fun observation =>
      (table.observations observation).isNone) = false := by
    apply List.any_eq_false.mpr
    intro x member
    obtain ⟨entry, isEntry, _, isObservation⟩ := mem_closenessObservations member
    simpa [Option.isSome_iff_ne_none] using kept.live entry isEntry x isObservation
  simp only [severAll, none, read, Bool.or_false, foldl_nil]

theorem removeEntity : Kept (table.removeEntity child callback) := by
  have fewer : Kept { table with contains := table.contains.filter (· ≠ child) } :=
    ⟨kept.live, kept.own, kept.known, kept.unread, kept.once, kept.released⟩
  unfold Closeness.removeEntity
  rw [foldl_fixed' (fewer.severAll_of_unobserved callback unobserved)]
  exact fewer

end

theorem step {event : ClosenessEvent} (unobserved : table.Unobserved event) :
    Kept (table.step event) := by
  cases event with
  | addEntity child =>
    exact ⟨kept.live, kept.own, kept.known, kept.unread, kept.once, kept.released⟩
  | removeEntity child callback => exact kept.removeEntity callback unobserved
  | addObserver id => exact kept.addObserver id
  | removeObserver id callback => exact kept.removeObserver id callback
  | observeCloseness reacher target => exact kept.observeCloseness reacher target
  | disconnect observation => exact kept.disconnect observation

end

end Kept

/-- No record of closeness outlives what it refers to, as long as no thing is taken out while it is
observed. -/
theorem run_neverDangling (events : List ClosenessEvent)
    (unobserved : Admissible step Unobserved initial events) :
    NeverDangling (run step initial events) :=
  (run_invariant Kept (fun _ _ kept unobserved => kept.step unobserved) Kept.initial
    unobserved).neverDangling

/-- Two entities observe a thing, and one goes. -/
theorem run_neverDangling_observers :
    NeverDangling (run step initial
      [.addEntity 7, .addEntity 8, .addObserver "alice", .addObserver "bob",
        .observeCloseness "alice" 7, .observeCloseness "alice" 7, .observeCloseness "bob" 7,
        .removeEntity 8 fun _ => [], .removeObserver "alice" fun _ => [0, 1, 2]]) :=
  run_neverDangling _ (by decide +kernel)

/-- The thing that is observed is taken out. -/
theorem removed_thing_dangles :
    ¬ NeverDangling (run step initial
      [.addEntity 7, .addObserver "alice", .observeCloseness "alice" 7,
        .removeEntity 7 fun _ => []]) := by
  intro neverDangling
  have dangles : ¬ ∀ entry ∈ (run step initial
      [.addEntity 7, .addObserver "alice", .observeCloseness "alice" 7,
        .removeEntity 7 fun _ => []]).reachingEntities, ∀ observation ∈ entry.2,
      ((run step initial
        [.addEntity 7, .addObserver "alice", .observeCloseness "alice" 7,
          .removeEntity 7 fun _ => []]).observations observation).isSome = true := by
    decide +kernel
  exact dangles neverDangling.live

end Closeness

end Cyphesis.Simulation
