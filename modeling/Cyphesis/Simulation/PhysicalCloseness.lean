import Cyphesis.Foundation.Run
import Mathlib.Data.List.Nodup
import Mathlib.Data.List.Pairwise

/-!
# Closeness observations of a physical domain

A physical domain keeps closeness observations in a map, and refers to each from two entries.
Addresses are not used again here. The callback of an observation that ends runs the disconnect
functions of some others.
-/

namespace Cyphesis.Simulation

open Cyphesis.Foundation List Option
open Function

/-- `ClosenessObserverEntry`, but for the reach. -/
structure ClosenessPair where
  reacher : Int
  target : Int

/-- The entries with the observations of each, and the map of all observations. -/
structure PhysicalCloseness where
  entries : Int → Option (List Nat)
  observations : Nat → Option ClosenessPair
  next : Nat

namespace PhysicalCloseness

def empty : PhysicalCloseness where
  entries _ := none
  observations _ := none
  next := 0

/-- `closenessObservations` of an entry. -/
def closenessObservations (table : PhysicalCloseness) (id : Int) : List Nat :=
  (table.entries id).getD []

/-- Erase an observation from a set. -/
def forget (table : PhysicalCloseness) (id : Int) (observation : Nat) : PhysicalCloseness :=
  { table with
    entries := fun other =>
      if other = id then (table.entries id).map (·.erase observation) else table.entries other }

/-- Insert an observation into a set. The newest comes first here, whereas the source orders the set
by the addresses of the observations. -/
def refer (table : PhysicalCloseness) (id : Int) (observation : Nat) : PhysicalCloseness :=
  { table with
    entries := fun other =>
      if other = id then (table.entries id).map (·.insert observation) else table.entries other }

/-- Take an observation from the map. -/
def release (table : PhysicalCloseness) (observation : Nat) : PhysicalCloseness :=
  { table with observations := update table.observations observation none }

/-- Function that `observeCloseness` returns. -/
def disconnect (table : PhysicalCloseness) (observation : Nat) : PhysicalCloseness :=
  match table.observations observation with
  | none => table
  | some pair =>
    ((table.forget pair.reacher observation).forget pair.target observation).release observation

def observeCloseness (table : PhysicalCloseness) (reacher target : Int) : PhysicalCloseness :=
  if (table.entries reacher).isSome ∧ (table.entries target).isSome then
    { (table.refer reacher table.next).refer target table.next with
      observations := update table.observations table.next (some ⟨reacher, target⟩)
      next := table.next + 1 }
  else table

/-- The callbacks called, and reads after a release. -/
structure Outcome where
  table : PhysicalCloseness
  called : List Nat
  readReleased : Bool

/-- Call the callback of an observation. -/
def Outcome.call (callback : Nat → List Nat) (outcome : Outcome) (observation : Nat) : Outcome :=
  { outcome with
    table := (callback observation).foldl disconnect outcome.table
    called := outcome.called ++ [observation] }

/-- One turn of the loop in `removeEntity`. -/
def callCopied (callback : Nat → List Nat) (outcome : Outcome) (observation : Nat) : Outcome :=
  match outcome.table.observations observation with
  | none => { outcome with readReleased := true }
  | some _ => outcome.call callback observation

/-- `removeEntity`, with its callbacks. -/
def removeEntity (table : PhysicalCloseness) (id : Int) (callback : Nat → List Nat) : Outcome :=
  let called := (table.closenessObservations id).foldl (callCopied callback) ⟨table, [], false⟩
  { called with
    table :=
      { called.table with
        entries := fun other => if other = id then none else called.table.entries other } }

/-- The second loop in `processMovedEntity`. -/
def sever (callback : Nat → List Nat) (id : Int) (outcome : Outcome) (observation : Nat) :
    Outcome :=
  if observation ∈ outcome.table.closenessObservations id then
    match outcome.table.observations observation with
    | none => { outcome with readReleased := true }
    | some pair =>
      let other := if id = pair.reacher then pair.target else pair.reacher
      { outcome with
        table := ((outcome.table.forget other observation).forget id observation).release
          observation }.call callback observation
  else outcome

/-- `processMovedEntity`; its first loop reads. -/
def processMovedEntity (table : PhysicalCloseness) (id : Int) (outOfReach : Nat → Bool)
    (callback : Nat → List Nat) : Outcome :=
  ((table.closenessObservations id).filter outOfReach).foldl (sever callback id)
    ⟨table, [], (table.closenessObservations id).any fun observation =>
      (table.observations observation).isNone⟩

/-- What happens to a physical domain whose observations are watched. -/
inductive Event where
  | addEntity (id : Int)
  | observeCloseness (reacher target : Int)
  | disconnect (observation : Nat)
  | removeEntity (id : Int) (callback : Nat → List Nat)
  | processMovedEntity (id : Int) (outOfReach : Nat → Bool) (callback : Nat → List Nat)

def perform (table : PhysicalCloseness) : Event → Outcome
  | .addEntity id =>
    ⟨{ table with
        entries := fun other =>
          if other = id then some ((table.entries id).getD []) else table.entries other },
      [], false⟩
  | .observeCloseness reacher target => ⟨table.observeCloseness reacher target, [], false⟩
  | .disconnect observation => ⟨table.disconnect observation, [], false⟩
  | .removeEntity id callback => table.removeEntity id callback
  | .processMovedEntity id outOfReach callback => table.processMovedEntity id outOfReach callback

def step (table : PhysicalCloseness) (event : Event) : PhysicalCloseness :=
  (table.perform event).table

/-- No read after release, and no callback twice. -/
structure Outcome.Safe (outcome : Outcome) : Prop where
  unread : outcome.readReleased = false
  once : outcome.called.Nodup
  live : ∀ id, ∀ observation ∈ outcome.table.closenessObservations id,
    (outcome.table.observations observation).isSome = true

/-- None disconnects what is to come. -/
def Orderly (table : PhysicalCloseness) : Event → Prop
  | .removeEntity id callback =>
    (table.closenessObservations id).Pairwise fun earlier later => later ∉ callback earlier
  | _ => True

instance (table : PhysicalCloseness) : ∀ event, Decidable (table.Orderly event)
  | .removeEntity _ _ => inferInstanceAs (Decidable (List.Pairwise _ _))
  | .addEntity _ => isTrue trivial
  | .observeCloseness _ _ => isTrue trivial
  | .disconnect _ => isTrue trivial
  | .processMovedEntity _ _ _ => isTrue trivial

/-- Entries refer to what is there, and no more. -/
structure Sound (table : PhysicalCloseness) : Prop where
  live : ∀ id, ∀ observation ∈ table.closenessObservations id,
    (table.observations observation).isSome = true
  own : ∀ id, ∀ observation ∈ table.closenessObservations id, ∀ pair,
    table.observations observation = some pair → id = pair.reacher ∨ id = pair.target
  nodup : ∀ id, (table.closenessObservations id).Nodup
  known : ∀ observation, (table.observations observation).isSome = true → observation < table.next

theorem closenessObservations_forget (table : PhysicalCloseness) (id other : Int)
    (observation : Nat) :
    (table.forget id observation).closenessObservations other =
      if other = id then (table.closenessObservations id).erase observation
      else table.closenessObservations other := by
  rw [closenessObservations, forget]
  dsimp only
  split
  · rw [closenessObservations]
    cases table.entries id <;> rfl
  · rfl

theorem mem_of_forget {table : PhysicalCloseness} {id other : Int} {observation seen : Nat}
    (member : seen ∈ (table.forget id observation).closenessObservations other) :
    seen ∈ table.closenessObservations other := by
  rw [closenessObservations_forget] at member
  split at member
  · next same =>
      subst same
      exact mem_of_mem_erase member
  · exact member

theorem not_mem_forget {table : PhysicalCloseness} {id : Int} {observation : Nat}
    (nodup : (table.closenessObservations id).Nodup) :
    observation ∉ (table.forget id observation).closenessObservations id := by
  rw [closenessObservations_forget, if_pos rfl]
  exact nodup.not_mem_erase

theorem observations_release (table : PhysicalCloseness) (observation other : Nat) :
    (table.release observation).observations other =
      if other = observation then none else table.observations other := by
  rw [release]
  exact update_apply ..

namespace Sound

variable {table : PhysicalCloseness} {id : Int} {observation : Nat}

theorem empty : Sound PhysicalCloseness.empty where
  live _ _ member := by cases member
  own _ _ member := by cases member
  nodup _ := nodup_nil
  known _ isSome := by cases isSome

section

variable (sound : Sound table)

include sound

theorem forget (id : Int) (observation : Nat) : Sound (table.forget id observation) where
  live other seen member := sound.live other seen (mem_of_forget member)
  own other seen member := sound.own other seen (mem_of_forget member)
  nodup other := by
    rw [closenessObservations_forget]
    split
    · exact (sound.nodup id).erase observation
    · exact sound.nodup other
  known := sound.known

theorem release (absent : ∀ id, observation ∉ table.closenessObservations id) :
    Sound (table.release observation) := by
  have other : ∀ id, ∀ seen ∈ table.closenessObservations id,
      (table.release observation).observations seen = table.observations seen := by
    intro id seen member
    rw [observations_release, if_neg]
    rintro rfl
    exact absent id member
  constructor
  · intro id seen member
    rw [other id seen member]
    exact sound.live id seen member
  · intro id seen member pair isPair
    rw [other id seen member] at isPair
    exact sound.own id seen member pair isPair
  · exact sound.nodup
  · intro seen isSome
    rw [observations_release] at isSome
    split at isSome
    · cases isSome
    · exact sound.known seen isSome

theorem forgetBoth {pair : ClosenessPair} (isPair : table.observations observation = some pair)
    {first second : Int}
    (both : ∀ id, id = pair.reacher ∨ id = pair.target → id = first ∨ id = second) :
    Sound (((table.forget first observation).forget second observation).release observation) := by
  apply ((sound.forget first observation).forget second observation).release
  intro id member
  have isOwn := sound.own id observation (mem_of_forget (mem_of_forget member)) pair isPair
  rcases both id isOwn with rfl | rfl
  · exact not_mem_forget (sound.nodup id) (mem_of_forget member)
  · exact not_mem_forget ((sound.forget first observation).nodup id) member

theorem disconnect (observation : Nat) : Sound (table.disconnect observation) := by
  rw [PhysicalCloseness.disconnect]
  split
  · exact sound
  · next pair isPair => exact sound.forgetBoth isPair fun _ isOwn => isOwn

theorem disconnects (observations : List Nat) :
    Sound (observations.foldl PhysicalCloseness.disconnect table) :=
  run_invariant_of_step Sound (fun _ observation sound => sound.disconnect observation) sound
    observations

end

end Sound

theorem observations_disconnect (table : PhysicalCloseness) (observation other : Nat) :
    (table.disconnect observation).observations other =
      if other = observation then none else table.observations other := by
  rw [disconnect]
  cases isPair : table.observations observation with
  | none =>
    dsimp only
    split
    · next same => rw [same, isPair]
    · rfl
  | some pair => exact observations_release _ observation other

theorem observations_disconnects (observations : List Nat) (table : PhysicalCloseness)
    (other : Nat) :
    (observations.foldl disconnect table).observations other =
      if other ∈ observations then none else table.observations other := by
  induction observations generalizing table with
  | nil => rfl
  | cons first rest ih =>
    rw [foldl_cons, ih, observations_disconnect]
    by_cases later : other ∈ rest
    · simp [later]
    · by_cases same : other = first <;> simp [later, same]

section Removal

variable {callback : Nat → List Nat}

variable (observations : List Nat)

variable {outcome : Outcome}

theorem callCopied_readReleased (read : outcome.readReleased = true) :
    (observations.foldl (callCopied callback) outcome).readReleased = true := by
  induction observations generalizing outcome with
  | nil => exact read
  | cons observation rest ih =>
    apply ih
    rw [callCopied]
    split
    · rfl
    · exact read

theorem callCopied_of_released {observations : List Nat} {outcome : Outcome} {observation : Nat}
    (member : observation ∈ observations) (gone : outcome.table.observations observation = none) :
    (observations.foldl (callCopied callback) outcome).readReleased = true := by
  induction observations generalizing outcome with
  | nil => cases member
  | cons first rest ih =>
    rw [foldl_cons]
    rcases List.mem_cons.mp member with rfl | later
    · apply callCopied_readReleased
      simp [callCopied, gone]
    · apply ih later
      rw [callCopied]
      split
      · exact gone
      · rw [Outcome.call, observations_disconnects, gone]
        exact ite_self none

theorem callCopied_unread_iff (unread : outcome.readReleased = false)
    (live : ∀ observation ∈ observations, (outcome.table.observations observation).isSome = true) :
    (observations.foldl (callCopied callback) outcome).readReleased = false ↔
      observations.Pairwise fun earlier later => later ∉ callback earlier := by
  induction observations generalizing outcome with
  | nil => simp [unread]
  | cons observation rest ih =>
    obtain ⟨pair, isPair⟩ := Option.isSome_iff_exists.mp (live observation mem_cons_self)
    have turn : callCopied callback outcome observation = outcome.call callback observation := by
      rw [callCopied, isPair]
    rw [foldl_cons, turn, pairwise_cons]
    by_cases spares : ∀ later ∈ rest, later ∉ callback observation
    · have stillLive : ∀ later ∈ rest,
          ((outcome.call callback observation).table.observations later).isSome = true := by
        intro later member
        rw [Outcome.call, observations_disconnects, if_neg (spares later member)]
        exact live later (mem_cons_of_mem observation member)
      rw [@ih (outcome.call callback observation) unread stillLive]
      exact ⟨fun pairwise => ⟨spares, pairwise⟩, fun both => both.2⟩
    · push Not at spares
      obtain ⟨later, member, disconnected⟩ := spares
      have gone : (outcome.call callback observation).table.observations later = none := by
        rw [Outcome.call, observations_disconnects, if_pos disconnected]
      rw [callCopied_of_released member gone]
      simp only [Bool.true_eq_false, false_iff, not_and]
      exact fun spares _ => spares later member disconnected

theorem callCopied_keeps (sound : Sound outcome.table) :
    Sound (observations.foldl (callCopied callback) outcome).table ∧
      ∃ called, called.Sublist observations ∧
        (observations.foldl (callCopied callback) outcome).called = outcome.called ++ called := by
  induction observations generalizing outcome with
  | nil => exact ⟨sound, [], List.Sublist.refl [], (append_nil _).symm⟩
  | cons observation rest ih =>
    rw [foldl_cons, callCopied]
    split
    · obtain ⟨after, called, sublist, isCalled⟩ :=
        @ih { outcome with readReleased := true } sound
      exact ⟨after, called, sublist.cons observation, isCalled⟩
    · obtain ⟨after, called, sublist, isCalled⟩ :=
        @ih (outcome.call callback observation) (sound.disconnects _)
      refine ⟨after, observation :: called, sublist.cons_cons observation, ?_⟩
      rw [isCalled, Outcome.call, append_assoc, singleton_append]

section

variable {table : PhysicalCloseness} (sound : Sound table) (id : Int)

include sound id

theorem Sound.takeAway :
    Sound { table with
      entries := fun other => if other = id then none else table.entries other } := by
  have fewer : ∀ other, closenessObservations { table with
      entries := fun other => if other = id then none else table.entries other } other =
        if other = id then [] else table.closenessObservations other := by
    intro other
    rw [closenessObservations]
    dsimp only
    split
    · rfl
    · rfl
  constructor
  · intro other observation member
    rw [fewer] at member
    split at member
    · cases member
    · exact sound.live other observation member
  · intro other observation member
    rw [fewer] at member
    split at member
    · cases member
    · exact sound.own other observation member
  · intro other
    rw [fewer]
    split
    · exact nodup_nil
    · exact sound.nodup other
  · exact sound.known

theorem Sound.removeEntity (callback : Nat → List Nat) :
    Sound (table.removeEntity id callback).table := by
  apply Sound.takeAway
  exact (@callCopied_keeps callback (table.closenessObservations id) ⟨table, [], false⟩ sound).1

theorem removeEntity_safe_iff (callback : Nat → List Nat) :
    (table.removeEntity id callback).Safe ↔
      (table.closenessObservations id).Pairwise fun earlier later => later ∉ callback earlier := by
  have unread := @callCopied_unread_iff callback (table.closenessObservations id) ⟨table, [], false⟩
    rfl (sound.live id)
  rw [← unread]
  constructor
  · intro safe
    exact safe.unread
  · intro isUnread
    obtain ⟨-, called, sublist, isCalled⟩ :=
      @callCopied_keeps callback (table.closenessObservations id) ⟨table, [], false⟩ sound
    refine ⟨isUnread, ?_, (sound.removeEntity id callback).live⟩
    rw [PhysicalCloseness.removeEntity]
    dsimp only
    rw [isCalled, nil_append]
    exact sublist.nodup (sound.nodup id)

end

end Removal

section Moving

variable {callback : Nat → List Nat} {id : Int}

/-- Callbacks called were of released observations. -/
structure Severed (outcome : Outcome) : Prop where
  sound : Sound outcome.table
  unread : outcome.readReleased = false
  once : outcome.called.Nodup
  released : ∀ observation ∈ outcome.called, outcome.table.observations observation = none

section

variable {outcome : Outcome} (severed : Severed outcome)

include severed

theorem Severed.safe : outcome.Safe :=
  ⟨severed.unread, severed.once, severed.sound.live⟩

theorem Severed.call {table : PhysicalCloseness} {observation : Nat} (sound : Sound table)
    (fewer : ∀ other, table.observations other = none ∨
      table.observations other = outcome.table.observations other)
    (was : (outcome.table.observations observation).isSome = true)
    (gone : table.observations observation = none) :
    Severed ({ outcome with table := table }.call callback observation) := by
  have stays : ∀ other, table.observations other = none →
      ((callback observation).foldl disconnect table).observations other = none := by
    intro other isGone
    rw [observations_disconnects, isGone]
    exact ite_self none
  constructor
  · exact sound.disconnects (callback observation)
  · exact severed.unread
  · rw [Outcome.call, nodup_append]
    refine ⟨severed.once, nodup_singleton observation, ?_⟩
    rintro called isCalled last isLast rfl
    rw [mem_singleton] at isLast
    subst isLast
    rw [severed.released called isCalled] at was
    cases was
  · intro other isCalled
    apply stays
    rcases List.mem_append.mp isCalled with before | isLast
    · rcases fewer other with isGone | same
      · exact isGone
      · exact same.trans (severed.released other before)
    · rw [List.mem_singleton.mp isLast]
      exact gone

theorem Severed.sever (observation : Nat) :
    Severed (PhysicalCloseness.sever callback id outcome observation) := by
  rw [PhysicalCloseness.sever]
  split
  · next member =>
      have live := severed.sound.live id observation member
      obtain ⟨pair, isPair⟩ := Option.isSome_iff_exists.mp live
      rw [isPair]
      have isOwn := severed.sound.own id observation member pair isPair
      apply severed.call
      · apply severed.sound.forgetBoth isPair
        intro other isOther
        split
        · next isReacher =>
            rcases isOther with rfl | rfl
            · exact .inr isReacher.symm
            · exact .inl rfl
        · next notReacher =>
            have isTarget : id = pair.target := isOwn.resolve_left notReacher
            rcases isOther with rfl | rfl
            · exact .inl rfl
            · exact .inr isTarget.symm
      · intro other
        rw [observations_release]
        split
        · exact .inl rfl
        · exact .inr rfl
      · exact live
      · rw [observations_release, if_pos rfl]
  · exact severed

end

theorem processMovedEntity_severed {table : PhysicalCloseness} (sound : Sound table) (id : Int)
    (outOfReach : Nat → Bool) (callback : Nat → List Nat) :
    Severed (table.processMovedEntity id outOfReach callback) := by
  apply run_invariant_of_step Severed fun _ observation severed => severed.sever observation
  refine ⟨sound, ?_, nodup_nil, ?_⟩
  · rw [List.any_eq_false]
    intro observation member
    rw [isNone_iff_eq_none, ← not_isSome_iff_eq_none, not_not]
    exact sound.live id observation member
  · intro observation member
    cases member

end Moving

section

variable {table : PhysicalCloseness}

theorem Sound.addEntity (sound : Sound table) (id : Int) :
    Sound (table.perform (.addEntity id)).table := by
  have same : ∀ other, (table.perform (.addEntity id)).table.closenessObservations other =
      table.closenessObservations other := by
    intro other
    rw [perform, closenessObservations]
    dsimp only
    split
    · next isId => rw [isId, getD_some, closenessObservations]
    · rfl
  constructor
  · intro other observation member
    rw [same] at member
    exact sound.live other observation member
  · intro other observation member
    rw [same] at member
    exact sound.own other observation member
  · intro other
    rw [same]
    exact sound.nodup other
  · exact sound.known

theorem mem_refer {id other : Int} {observation seen : Nat}
    (member : seen ∈ (table.refer id observation).closenessObservations other) :
    seen ∈ table.closenessObservations other ∨ seen = observation ∧ other = id := by
  rw [closenessObservations, refer] at member
  dsimp only at member
  split at member
  · next same =>
      subst same
      cases isEntry : table.entries other with
      | none =>
        rw [isEntry] at member
        cases member
      | some entry =>
        rw [isEntry, map_some, getD_some, mem_insert_iff] at member
        rcases member with rfl | before
        · exact .inr ⟨rfl, rfl⟩
        · rw [closenessObservations, isEntry]
          exact .inl before
  · exact .inl member

theorem nodup_refer {id : Int} {observation : Nat}
    (nodup : ∀ other, (table.closenessObservations other).Nodup) (other : Int) :
    ((table.refer id observation).closenessObservations other).Nodup := by
  have before := nodup other
  rw [closenessObservations] at before
  rw [closenessObservations, refer]
  dsimp only
  split
  · next same =>
      subst same
      cases isEntry : table.entries other with
      | none => exact nodup_nil
      | some entry =>
        rw [isEntry] at before
        exact List.Nodup.insert before
  · exact before

end

section

variable {table : PhysicalCloseness} (sound : Sound table)

include sound

theorem Sound.observeCloseness (reacher target : Int) :
    Sound (table.observeCloseness reacher target) := by
  rw [PhysicalCloseness.observeCloseness]
  split
  · have known : ∀ other, ∀ seen ∈ table.closenessObservations other, seen ≠ table.next := by
      rintro other seen member rfl
      exact Nat.lt_irrefl _ (sound.known _ (sound.live other _ member))
    have members : ∀ other seen, seen ∈ ((table.refer reacher table.next).refer target
        table.next).closenessObservations other →
        seen ∈ table.closenessObservations other ∨
          seen = table.next ∧ (other = reacher ∨ other = target) := by
      intro other seen member
      rcases mem_refer member with before | ⟨isNew, isTarget⟩
      · rcases mem_refer before with older | ⟨isNew, isReacher⟩
        · exact .inl older
        · exact .inr ⟨isNew, .inl isReacher⟩
      · exact .inr ⟨isNew, .inr isTarget⟩
    constructor
    · intro other seen member
      rcases members other seen member with older | ⟨rfl, -⟩
      · dsimp only
        rw [update_of_ne (known other seen older)]
        exact sound.live other seen older
      · dsimp only
        rw [update_self]
        rfl
    · intro other seen member pair isPair
      dsimp only at isPair
      rcases members other seen member with older | ⟨rfl, isOwn⟩
      · rw [update_of_ne (known other seen older)] at isPair
        exact sound.own other seen older pair isPair
      · rw [update_self, Option.some.injEq] at isPair
        subst isPair
        exact isOwn
    · intro other
      exact nodup_refer (nodup_refer sound.nodup) other
    · intro seen isSome
      dsimp only at isSome
      rw [update_apply] at isSome
      split at isSome
      · next isNew =>
          subst isNew
          exact Nat.lt_succ_self _
      · exact Nat.lt_succ_of_lt (sound.known seen isSome)
  · exact sound

theorem Sound.step (event : Event) : Sound (table.step event) := by
  cases event with
  | addEntity id => exact sound.addEntity id
  | observeCloseness reacher target => exact sound.observeCloseness reacher target
  | disconnect observation => exact sound.disconnect observation
  | removeEntity id callback => exact sound.removeEntity id callback
  | processMovedEntity id outOfReach callback =>
    exact (processMovedEntity_severed sound id outOfReach callback).sound

theorem perform_safe_iff (event : Event) : (table.perform event).Safe ↔ table.Orderly event := by
  have after := (sound.step event).live
  cases event with
  | addEntity id => exact ⟨fun _ => trivial, fun _ => ⟨rfl, nodup_nil, after⟩⟩
  | observeCloseness reacher target =>
    exact ⟨fun _ => trivial, fun _ => ⟨rfl, nodup_nil, after⟩⟩
  | disconnect observation => exact ⟨fun _ => trivial, fun _ => ⟨rfl, nodup_nil, after⟩⟩
  | removeEntity id callback => exact removeEntity_safe_iff sound id callback
  | processMovedEntity id outOfReach callback =>
    exact ⟨fun _ => trivial,
      fun _ => (processMovedEntity_severed sound id outOfReach callback).safe⟩

end

/-- Every removal visits live observations only, exactly if no callback disconnects one that is
still to come. -/
theorem run_safe_iff (events : List Event) :
    Admissible step (fun table event => (table.perform event).Safe) empty events ↔
      Admissible step Orderly empty events := by
  have everywhere : ∀ table, Sound table →
      (Admissible step (fun table event => (table.perform event).Safe) table events ↔
        Admissible step Orderly table events) := by
    induction events with
    | nil => exact fun _ _ => Iff.rfl
    | cons event rest ih =>
      intro table sound
      rw [admissible_cons, admissible_cons, perform_safe_iff sound event,
        ih (table.step event) (sound.step event)]
  exact everywhere empty Sound.empty

/-- It reaches into a box in a chest, and goes. -/
theorem removed_character_reads_released :
    ¬ Admissible step (fun table event => (table.perform event).Safe) empty
      [.addEntity 1, .addEntity 2, .observeCloseness 1 2, .observeCloseness 1 2,
        .removeEntity 1 fun _ => [0, 1]] := by
  intro admissible
  have unread := admissible.2.2.2.2.1.unread
  revert unread
  decide +kernel

end PhysicalCloseness

end Cyphesis.Simulation
