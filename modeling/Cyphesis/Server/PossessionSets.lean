import Cyphesis.Server.ExternalMindsManager

/-!
# The entities that wait for a mind

An entity waits for a mind exactly when its mind property is enabled and it has none, if possession
is only requested for entities without minds, and their handlers are as they should be.
-/

namespace Cyphesis.Server

open Cyphesis.Foundation List

namespace Possession

open ExternalMindsManager
open Function

/-- Sets agree with entities and requests. -/
structure Coherent (world : Possession) : Prop where
  waiting : ∀ id, id ∈ world.manager.unpossessed ↔
    id ∈ world.live ∧ world.mindEnabled id = true ∧ world.minds id = []
  disjoint : ∀ id ∈ world.manager.unpossessed, id ∉ world.manager.possessed
  keyed : ∀ id ∈ world.manager.unpossessed, id ∈ world.manager.possessions
  asked : ∀ loss ∈ world.losses, loss.registered = true →
    loss.requests = if loss.enabled then 1 else 0

/-- Requested once, and without minds. -/
def AsksOnce (world : Possession) : PossessionEvent → Prop
  | .apply id enabled => id ∈ world.live → enabled = true → world.minds id = []
  | .removeMind id mind => id ∈ world.live → world.minds id = [mind] →
      if world.mindEnabled id then
        world.manager.connections ≠ [] → world.handlers id = 1
      else world.handlers id = 0
  | _ => True

instance (world : Possession) : (event : PossessionEvent) → Decidable (world.AsksOnce event)
  | .apply id enabled =>
    inferInstanceAs (Decidable (id ∈ world.live → enabled = true → world.minds id = []))
  | .removeMind id mind =>
    inferInstanceAs (Decidable (id ∈ world.live → world.minds id = [mind] →
      if world.mindEnabled id then
        world.manager.connections ≠ [] → world.handlers id = 1
      else world.handlers id = 0))
  | .create _ => isTrue trivial
  | .remove _ => isTrue trivial
  | .addMind _ _ _ => isTrue trivial
  | .destroy _ => isTrue trivial
  | .addConnection _ => isTrue trivial
  | .removeConnection _ => isTrue trivial

/-- Possessed or enabled with handlers. -/
structure Tended (world : Possession) : Prop where
  coherent : Coherent world
  possessed : ∀ id ∈ world.manager.possessed,
    id ∈ world.live ∧ world.minds id ≠ [] ∧ world.handlers id ≠ 0
  handled : ∀ id ∈ world.live, world.mindEnabled id = true → world.handlers id ≠ 0

namespace Tended

variable {world : Possession} {id mind : Nat}

theorem initial : Tended Possession.initial := by
  constructor
  · constructor <;> simp [Possession.initial, ExternalMindsManager.initial]
  · simp [Possession.initial, ExternalMindsManager.initial]
  · simp [Possession.initial]

section

variable (tended : Tended world)

include tended

theorem unhandled (none : world.handlers id = 0) :
    id ∉ world.manager.unpossessed ∧ id ∉ world.manager.possessed := by
  constructor
  · intro waits
    obtain ⟨live, enabled, _⟩ := (tended.coherent.waiting id).mp waits
    exact tended.handled id live enabled none
  · intro member
    exact (tended.possessed id member).2.2 none

/-- Without a handler the sets stay as they are. -/
theorem applyMinds (isLive : id ∈ world.live) {minds : List Nat}
    (fits : minds = [] → world.mindEnabled id = false → world.handlers id = 0) :
    Tended (world.applyMinds id minds) := by
  by_cases none : world.handlers id = 0
  · obtain ⟨notWaiting, notPossessed⟩ := tended.unhandled none
    have disabled : world.mindEnabled id = false := by
      by_contra enabled
      exact tended.handled id isLive (by simpa using enabled) none
    have same : (world.applyMinds id minds).manager = world.manager := by
      simp [Possession.applyMinds, none, notify]
    refine ⟨⟨?_, ?_, ?_, tended.coherent.asked⟩, ?_, tended.handled⟩
    · intro other
      rw [same]
      by_cases itself : other = id
      · subst itself
        simp [notWaiting, Possession.applyMinds, disabled]
      · simpa [Possession.applyMinds, update_of_ne itself] using tended.coherent.waiting other
    · rw [same]
      exact tended.coherent.disjoint
    · rw [same]
      exact tended.coherent.keyed
    · intro other member
      rw [same] at member
      have itself : other ≠ id := fun equal => notPossessed (equal ▸ member)
      simpa [Possession.applyMinds, update_of_ne itself] using tended.possessed other member
  · obtain ⟨count, isCount⟩ := Nat.exists_eq_succ_of_ne_zero none
    have changed : Changed id minds.isEmpty world.manager (world.applyMinds id minds).manager := by
      simp only [Possession.applyMinds, isCount]
      exact notify_changed id minds.isEmpty count world.manager
    refine ⟨⟨?_, ?_, ?_, tended.coherent.asked⟩, ?_, tended.handled⟩
    · intro other
      rw [changed.unpossessed]
      by_cases itself : other = id
      · subst itself
        have enabled : minds = [] → world.mindEnabled other = true := by
          intro empty
          by_contra disabled
          exact none (fits empty (by simpa using disabled))
        simp only [if_true, List.isEmpty_iff, Possession.applyMinds, update_self]
        exact ⟨fun empty => ⟨isLive, enabled empty, empty⟩, fun all => all.2.2⟩
      · simpa [itself, Possession.applyMinds, update_of_ne itself] using
          tended.coherent.waiting other
    · intro other waits member
      rw [changed.unpossessed] at waits
      rw [changed.possessed] at member
      by_cases itself : other = id
      · simp only [itself, if_true] at waits member
        rw [waits] at member
        cases member
      · simp only [itself, if_false] at waits member
        exact tended.coherent.disjoint other waits member
    · intro other waits
      rw [changed.unpossessed] at waits
      rw [changed.possessions]
      by_cases itself : other = id
      · simp only [itself, if_true] at waits
        exact .inl ⟨itself, waits⟩
      · simp only [itself, if_false] at waits
        exact .inr (tended.coherent.keyed other waits)
    · intro other member
      rw [changed.possessed] at member
      by_cases itself : other = id
      · subst itself
        simp only [if_true] at member
        refine ⟨isLive, ?_, none⟩
        simpa [Possession.applyMinds] using member
      · simp only [itself, if_false] at member
        simpa [Possession.applyMinds, update_of_ne itself] using tended.possessed other member

theorem removePossession (hasMind : id ∉ world.manager.unpossessed) :
    Tended { world with manager := world.manager.removePossession id } := by
  refine ⟨⟨tended.coherent.waiting, tended.coherent.disjoint, ?_, tended.coherent.asked⟩,
    tended.possessed, tended.handled⟩
  intro other waits
  have different : other ≠ id := fun same => hasMind (same ▸ waits)
  simpa [ExternalMindsManager.removePossession, different] using tended.coherent.keyed other waits

theorem addMind (isLive : id ∈ world.live) (withKey : Bool) :
    Tended (world.addMind id mind withKey) := by
  have connected : Tended (world.applyMinds id (world.minds id ++ [mind])) :=
    tended.applyMinds isLive (by simp)
  unfold Possession.addMind
  cases withKey with
  | false => exact connected
  | true =>
    apply connected.removePossession
    intro waits
    have noMinds := ((connected.coherent.waiting id).mp waits).2.2
    simp [Possession.applyMinds] at noMinds

end

theorem requestsFor_applyMinds (world : Possession) (id : Nat)
    (registered : world.manager.connections ≠ []) :
    (world.handlers id = 0 → (world.applyMinds id []).requestsFor id = world.requestsFor id) ∧
      (world.handlers id = 1 →
        (world.applyMinds id []).requestsFor id = world.requestsFor id + 1) := by
  constructor
  · intro none
    simp [requestsFor, Possession.applyMinds, none, notify]
  · intro one
    have isLast := getLast?_eq_getLast_of_ne_nil registered
    simp [requestsFor, Possession.applyMinds, one, notify, mindsChanged_sent, isLast]

section

variable (tended : Tended world)

include tended

theorem removeMind (isLive : id ∈ world.live) (hasMind : mind ∈ world.minds id)
    (once : world.AsksOnce (.removeMind id mind)) :
    Tended (world.removeMind id mind) := by
  have last : (world.minds id).erase mind = [] → world.minds id = [mind] := by
    intro empty
    have length := length_erase_of_mem hasMind
    rw [empty] at length
    obtain ⟨only, isOnly⟩ := List.length_eq_one_iff.mp (show (world.minds id).length = 1 by
        have positive := length_pos_of_mem hasMind
        simp only [length_nil] at length
        omega)
    rw [isOnly] at hasMind ⊢
    rw [List.mem_singleton.mp hasMind]
  have changed : Tended (world.applyMinds id ((world.minds id).erase mind)) := by
    apply tended.applyMinds isLive
    intro empty disabled
    have guarded := once isLive (last empty)
    simpa [disabled] using guarded
  unfold Possession.removeMind
  dsimp only
  split
  · next empty =>
      rw [List.isEmpty_iff] at empty
      have guarded := once isLive (last empty)
      refine ⟨⟨changed.coherent.waiting, changed.coherent.disjoint, changed.coherent.keyed, ?_⟩,
        changed.possessed, changed.handled⟩
      intro loss member
      rcases List.mem_append.mp member with old | new
      · exact tended.coherent.asked loss old
      · rw [List.mem_singleton.mp new]
        intro registered
        have connections : world.manager.connections ≠ [] := by simpa using registered
        obtain ⟨unasked, asked⟩ := requestsFor_applyMinds world id connections
        simp only [empty]
        split
        · next enabled =>
            rw [if_pos enabled] at guarded
            rw [asked (guarded connections)]
            omega
        · next disabled =>
            rw [if_neg disabled] at guarded
            rw [unasked guarded]
            omega
  · exact changed

theorem requestPossession (isLive : id ∈ world.live) (noMinds : world.minds id = []) :
    Tended (world.applyMind id true) := by
  obtain ⟨_, unpossessed, possessed, possessions⟩ := request_frame
    { world.manager.addPossessionEntryForCharacter id with
      unpossessed := ExternalMindsManager.insert id world.manager.unpossessed } id
  have manager : (world.applyMind id true).manager =
      requestPossessionFromRegisteredClients
        { world.manager.addPossessionEntryForCharacter id with
          unpossessed := ExternalMindsManager.insert id world.manager.unpossessed } id := by
    simp [applyMind, ExternalMindsManager.requestPossession, noMinds]
  refine ⟨⟨?_, ?_, ?_, tended.coherent.asked⟩, ?_, ?_⟩
  · intro other
    rw [manager, unpossessed, mem_insert]
    by_cases itself : other = id
    · subst itself
      simp [applyMind, isLive, noMinds]
    · simpa [itself, applyMind] using tended.coherent.waiting other
  · intro other waits member
    rw [manager, unpossessed, mem_insert] at waits
    rw [manager, possessed] at member
    rcases waits with rfl | waits
    · exact (tended.possessed other member).2.1 noMinds
    · exact tended.coherent.disjoint other waits member
  · intro other waits
    rw [manager, unpossessed, mem_insert] at waits
    rw [manager, possessions]
    simp only [addPossessionEntryForCharacter, mem_insert]
    rcases waits with rfl | waits
    · exact .inl rfl
    · exact .inr (tended.coherent.keyed other waits)
  · intro other member
    rw [manager, possessed] at member
    obtain ⟨live, minds, handlers⟩ := tended.possessed other member
    refine ⟨live, minds, ?_⟩
    by_cases itself : other = id
    · simp [applyMind, itself]
    · simpa [applyMind, itself] using handlers
  · intro other live enabled
    by_cases itself : other = id
    · simp [applyMind, itself]
    · simp only [applyMind, if_true, update_of_ne itself] at enabled ⊢
      exact tended.handled other live enabled

theorem removeRequest : Tended (world.applyMind id false) := by
  have waits : ∀ other, other ∈ (world.applyMind id false).manager.unpossessed ↔
      other ≠ id ∧ other ∈ world.manager.unpossessed := by
    intro other
    simp [applyMind, ExternalMindsManager.removeRequest, and_comm]
  refine ⟨⟨?_, ?_, ?_, tended.coherent.asked⟩, tended.possessed, ?_⟩
  · intro other
    rw [waits]
    by_cases itself : other = id
    · simp [applyMind, itself]
    · simpa [itself, applyMind] using tended.coherent.waiting other
  · intro other member
    exact tended.coherent.disjoint other ((waits other).mp member).2
  · intro other member
    exact tended.coherent.keyed other ((waits other).mp member).2
  · intro other live enabled
    by_cases itself : other = id
    · simp [applyMind, itself] at enabled
    · simp only [applyMind, Bool.false_eq_true, if_false, update_of_ne itself] at enabled
      exact tended.handled other live enabled

theorem destroy (id : Nat) : Tended (world.perform (.destroy id)) := by
  have left : (∀ other, other ∈ (world.perform (.destroy id)).manager.unpossessed ↔
        other ≠ id ∧ other ∈ world.manager.unpossessed) ∧
      (∀ other, other ∈ (world.perform (.destroy id)).manager.possessed ↔
        other ≠ id ∧ other ∈ world.manager.possessed) ∧
      (world.perform (.destroy id)).manager.possessions = world.manager.possessions := by
    cases handlers : world.handlers id with
    | zero =>
      obtain ⟨notWaiting, notPossessed⟩ := tended.unhandled handlers
      simp only [Possession.perform, handlers, notify]
      refine ⟨?_, ?_, trivial⟩
      · intro other
        exact ⟨fun member => ⟨fun same => notWaiting (same ▸ member), member⟩, And.right⟩
      · intro other
        exact ⟨fun member => ⟨fun same => notPossessed (same ▸ member), member⟩, And.right⟩
    | succ count =>
      obtain ⟨_, possessions, unpossessed, possessed⟩ :=
        notify_destroyed id count world.manager
      simp only [Possession.perform, handlers]
      exact ⟨unpossessed, possessed, possessions⟩
  obtain ⟨unpossessed, possessed, possessions⟩ := left
  have stays : ∀ other, other ∈ (world.perform (.destroy id)).live ↔
      other ∈ world.live ∧ other ≠ id := by
    intro other
    simp [Possession.perform]
  refine ⟨⟨?_, ?_, ?_, tended.coherent.asked⟩, ?_, ?_⟩
  · intro other
    rw [unpossessed, stays, tended.coherent.waiting other]
    exact ⟨fun all => ⟨⟨all.2.1, all.1⟩, all.2.2⟩, fun all => ⟨all.1.2, all.1.1, all.2⟩⟩
  · intro other waits member
    exact tended.coherent.disjoint other ((unpossessed other).mp waits).2
      ((possessed other).mp member).2
  · intro other waits
    rw [possessions]
    exact tended.coherent.keyed other ((unpossessed other).mp waits).2
  · intro other member
    obtain ⟨different, before⟩ := (possessed other).mp member
    obtain ⟨live, minds, handlers⟩ := tended.possessed other before
    exact ⟨(stays other).mpr ⟨live, different⟩, minds, handlers⟩
  · intro other live enabled
    exact tended.handled other ((stays other).mp live).1 enabled

theorem create (fresh : id ∉ world.live) :
    Tended
      { world with
        live := id :: world.live
        mindEnabled := update world.mindEnabled id false
        minds := update world.minds id []
        handlers := update world.handlers id 0 } := by
  have notPossessed : id ∉ world.manager.possessed := fun member =>
    fresh (tended.possessed id member).1
  have notWaiting : id ∉ world.manager.unpossessed := fun waits =>
    fresh ((tended.coherent.waiting id).mp waits).1
  refine ⟨⟨?_, tended.coherent.disjoint, tended.coherent.keyed, tended.coherent.asked⟩, ?_, ?_⟩
  · intro other
    by_cases itself : other = id
    · simp [itself, notWaiting]
    · simpa [itself] using tended.coherent.waiting other
  · intro other member
    have itself : other ≠ id := fun same => notPossessed (same ▸ member)
    simpa [itself] using tended.possessed other member
  · intro other live enabled
    by_cases itself : other = id
    · simp [itself] at enabled
    · simp only [update_of_ne itself] at enabled ⊢
      exact tended.handled other (mem_of_ne_of_mem itself live) enabled

theorem of_sets {manager : ExternalMindsManager}
    (unpossessed : manager.unpossessed = world.manager.unpossessed)
    (possessed : manager.possessed = world.manager.possessed)
    (possessions : manager.possessions = world.manager.possessions) :
    Tended { world with manager := manager } := by
  refine ⟨⟨?_, ?_, ?_, tended.coherent.asked⟩, ?_, tended.handled⟩
  · rw [unpossessed]
    exact tended.coherent.waiting
  · rw [unpossessed, possessed]
    exact tended.coherent.disjoint
  · rw [unpossessed, possessions]
    exact tended.coherent.keyed
  · rw [possessed]
    exact tended.possessed

theorem addConnection (connection : ExternalMindsConnection) :
    Tended (world.perform (.addConnection connection)) := by
  simp only [Possession.perform]
  unfold ExternalMindsManager.addConnection
  split
  · exact tended
  · obtain ⟨_, unpossessed, possessed, possessions⟩ := requests_frame
      { world.manager with
        connections := world.manager.connections.orderedInsert
          (fun first second => first.routerId ≤ second.routerId) connection }
      world.manager.unpossessed
    exact tended.of_sets unpossessed possessed possessions

theorem perform {event : PossessionEvent} (once : world.AsksOnce event) :
    Tended (world.perform event) := by
  cases event with
  | create id =>
    simp only [Possession.perform]
    split
    · exact tended
    · next fresh => exact tended.create fresh
  | apply id enabled =>
    simp only [Possession.perform]
    split
    · next isLive =>
        cases enabled with
        | true => exact tended.requestPossession isLive (once isLive rfl)
        | false => exact tended.removeRequest
    · exact tended
  | remove id =>
    simp only [Possession.perform]
    split
    · exact tended.removeRequest
    · exact tended
  | addMind id mind withKey =>
    simp only [Possession.perform]
    split
    · next isLive =>
        split
        · exact tended
        · exact tended.addMind isLive withKey
    · next gone =>
        split
        · apply tended.removePossession
          exact fun waits => gone ((tended.coherent.waiting id).mp waits).1
        · exact tended
  | removeMind id mind =>
    simp only [Possession.perform]
    split
    · next both => exact tended.removeMind both.1 both.2 once
    · exact tended
  | destroy id => exact tended.destroy id
  | addConnection connection => exact tended.addConnection connection
  | removeConnection routerId => exact tended.of_sets rfl rfl rfl

end

end Tended

/-- Minds and handlers agree in every run in which a mind is asked for only by an entity without one
and a single handler waits for it. -/
theorem run_coherent (events : List PossessionEvent)
    (once : Admissible perform AsksOnce initial events) :
    Coherent (run perform initial events) :=
  (run_invariant Tended (fun _ _ tended holds => tended.perform holds) Tended.initial once).coherent

/-- A client possesses, and leaves. -/
theorem run_coherent_possession :
    Admissible perform AsksOnce initial
        [.addConnection ⟨"7", 1⟩, .create 20, .apply 20 true, .addMind 20 31 true,
          .removeMind 20 31] ∧
      Coherent (run perform initial
        [.addConnection ⟨"7", 1⟩, .create 20, .apply 20 true, .addMind 20 31 true,
          .removeMind 20 31]) ∧
      (run perform initial
        [.addConnection ⟨"7", 1⟩, .create 20, .apply 20 true, .addMind 20 31 true,
          .removeMind 20 31]).losses = [⟨20, true, true, 1⟩] := by
  have once : Admissible perform AsksOnce initial
      [.addConnection ⟨"7", 1⟩, .create 20, .apply 20 true, .addMind 20 31 true,
        .removeMind 20 31] := by decide +kernel
  exact ⟨once, run_coherent _ once, by decide +kernel⟩

/-- During possession it is in both. -/
theorem reapplied_not_coherent :
    ¬ Coherent (run perform initial
        [.addConnection ⟨"7", 1⟩, .create 20, .apply 20 true, .addMind 20 31 true,
          .apply 20 true]) ∧
      (run perform initial
        [.addConnection ⟨"7", 1⟩, .create 20, .apply 20 true, .addMind 20 31 true,
          .apply 20 true, .removeMind 20 31]).losses = [⟨20, true, true, 2⟩] := by
  constructor
  · intro coherent
    exact coherent.disjoint 20 (by decide +kernel) (by decide +kernel)
  · decide +kernel

end Possession

end Cyphesis.Server
