import Cyphesis.Ai.ObserverCounts
import Cyphesis.Foundation.Run
import Mathlib.Algebra.BigOperators.Group.Finset.Piecewise

/-!
# Runs of all minds that share an awareness

What is stored for a domain is compared with all minds that are alive.
-/

namespace Cyphesis.Ai

open Std (ExtTreeMap)
open Cyphesis.Foundation Finset

namespace Minds

variable {domain : Nat} {minds : Minds} {event : MindsEvent}

open AwareMind

/-- How many of the minds observe it. -/
def observersIn (minds : Nat → AwareMind) (domain : Nat) (group : Finset Nat) (entity : Nat) :
    Nat :=
  (group.filter fun mindId => (minds mindId).Observes domain entity).card

/-- The minds of a group that use the awareness of a domain. -/
def usersIn (minds : Nat → AwareMind) (domain : Nat) (group : Finset Nat) : Finset Nat :=
  group.filter fun mindId => (minds mindId).awareness = some domain

/-- A mind of the group has set its awareness area. -/
def AreaIn (minds : Nat → AwareMind) (domain : Nat) (group : Finset Nat) (areaId : Nat) : Prop :=
  ∃ mindId ∈ usersIn minds domain group,
    (minds mindId).hasArea = true ∧ (minds mindId).entityId = areaId

instance (minds : Nat → AwareMind) (domain : Nat) (group : Finset Nat) (areaId : Nat) :
    Decidable (AreaIn minds domain group areaId) :=
  inferInstanceAs (Decidable (∃ mindId ∈ _, _ ∧ _))

/-- The awareness counts its minds correctly. -/
structure CountsMinds (domain : Nat) (minds : Minds) : Prop where
  observedEntities : ∀ entity : Nat, minds.awareness.observedEntities[entity]? =
    storedCount (observersIn minds.minds domain minds.live entity)
  observerCount : minds.awareness.observerCount = (minds.users domain).card
  awareAreas : ∀ areaId, areaId ∈ minds.awareness.awareAreas ↔
    AreaIn minds.minds domain minds.live areaId

/-- A mind uses an awareness only after it has met its own entity. -/
def Ordered (minds : Minds) : Prop :=
  ∀ mindId ∈ minds.live,
    ((minds.minds mindId).own = none → (minds.minds mindId).awareness = none) ∧
    ((minds.minds mindId).awareness = none → (minds.minds mindId).hasArea = false)

/-- What it remembers is taken back. -/
def TakesBack (domain mindId : Nat) (minds : Minds) : Prop :=
  let mind := minds.minds mindId
  let others := minds.live.erase mindId
  (∀ entity : Nat,
    mind.memory[entity]? = mind.own ∧ observersIn minds.minds domain minds.live entity ≠ 0 ↔
      mind.Observes domain entity) ∧
  (mind.hasArea = true → mind.entityId = mindId ∨ AreaIn minds.minds domain others mind.entityId) ∧
  ¬ AreaIn minds.minds domain others mindId

/-- An event does not upset the numbers. -/
def Orderly (domain : Nat) (minds : Minds) : MindsEvent → Prop
  | .create _ _ => True
  | .happens mindId event =>
    mindId ∈ minds.live →
      AwareMind.Orderly domain mindId (minds.minds mindId)
        (fun entity => observersIn minds.minds domain minds.live entity ≠ 0) event
  | .destroy mindId =>
    mindId ∈ minds.users domain →
      (usersIn minds.minds domain (minds.live.erase mindId)).Nonempty →
      TakesBack domain mindId minds

variable {mindId : Nat} {group : Finset Nat} {others changed : Nat → AwareMind}

section

variable (same : ∀ mindId ∈ group, changed mindId = others mindId)

include same

theorem observersIn_congr (entity : Nat) :
    observersIn changed domain group entity = observersIn others domain group entity := by
  unfold observersIn
  congr 1
  apply filter_congr
  intro mindId isMember
  rw [same mindId isMember]

theorem usersIn_congr : usersIn changed domain group = usersIn others domain group := by
  apply filter_congr
  intro mindId isMember
  rw [same mindId isMember]

theorem areaIn_congr (areaId : Nat) :
    AreaIn changed domain group areaId ↔ AreaIn others domain group areaId := by
  unfold AreaIn
  rw [usersIn_congr same]
  constructor
  · rintro ⟨mindId, isUser, hasArea⟩
    exact ⟨mindId, isUser, same mindId (Finset.mem_filter.mp isUser).1 ▸ hasArea⟩
  · rintro ⟨mindId, isUser, hasArea⟩
    exact ⟨mindId, isUser, (same mindId (Finset.mem_filter.mp isUser).1).symm ▸ hasArea⟩

end

section

variable (isMember : mindId ∈ group)

include isMember

theorem card_filter_erase (counted : Nat → Prop)
    [DecidablePred counted] :
    (group.filter counted).card =
      ((group.erase mindId).filter counted).card + if counted mindId then 1 else 0 := by
  rw [card_filter, card_filter]
  exact (sum_erase_add group _ isMember).symm

theorem observersIn_erase (entity : Nat) :
    observersIn minds.minds domain group entity =
      observersIn minds.minds domain (group.erase mindId) entity +
        (minds.minds mindId).share domain entity :=
  card_filter_erase isMember fun mindId => (minds.minds mindId).Observes domain entity

theorem areaIn_erase (areaId : Nat) :
    AreaIn minds.minds domain group areaId ↔
      AreaIn minds.minds domain (group.erase mindId) areaId ∨
        (minds.minds mindId).awareness = some domain ∧ (minds.minds mindId).hasArea = true ∧
          (minds.minds mindId).entityId = areaId := by
  unfold AreaIn usersIn
  simp only [mem_filter, mem_erase]
  constructor
  · rintro ⟨other, ⟨isOther, uses⟩, hasArea⟩
    by_cases isMind : other = mindId
    · subst isMind
      exact Or.inr ⟨uses, hasArea⟩
    · exact Or.inl ⟨other, ⟨⟨isMind, isOther⟩, uses⟩, hasArea⟩
  · rintro (⟨other, ⟨⟨-, isOther⟩, uses⟩, hasArea⟩ | ⟨uses, hasArea⟩)
    · exact ⟨other, ⟨isOther, uses⟩, hasArea⟩
    · exact ⟨mindId, ⟨isMember, uses⟩, hasArea⟩

end

theorem countsMinds_iff (isLive : mindId ∈ minds.live) :
    CountsMinds domain minds ∧
        ((minds.minds mindId).own = none → (minds.minds mindId).awareness = none) ∧
        ((minds.minds mindId).awareness = none → (minds.minds mindId).hasArea = false) ↔
      Balanced domain (observersIn minds.minds domain (minds.live.erase mindId))
        (usersIn minds.minds domain (minds.live.erase mindId)).card
        (AreaIn minds.minds domain (minds.live.erase mindId)) (minds.minds mindId)
        minds.awareness := by
  have observers (entity : Nat) := @observersIn_erase domain minds _ _ isLive entity
  have users := card_filter_erase isLive fun mindId => (minds.minds mindId).awareness = some domain
  constructor
  · rintro ⟨counts, knowsItself, noArea⟩
    refine ⟨fun entity => ?_, ?_, fun areaId => ?_, knowsItself, noArea⟩
    · exact (counts.observedEntities entity).trans (congrArg storedCount (observers entity))
    · exact counts.observerCount.trans (congrArg Nat.cast users)
    · exact (counts.awareAreas areaId).trans (areaIn_erase isLive areaId)
  · rintro ⟨stores, observerCount, awareAreas, knowsItself, noArea⟩
    refine ⟨⟨fun entity => ?_, ?_, fun areaId => ?_⟩, knowsItself, noArea⟩
    · exact (stores entity).trans (congrArg storedCount (observers entity).symm)
    · exact observerCount.trans (congrArg Nat.cast users.symm)
    · exact (awareAreas areaId).trans (areaIn_erase isLive areaId).symm

theorem CountsMinds.unused (isUnused : usersIn minds.minds domain minds.live = ∅)
    (isInitial : minds.awareness = .initial) : CountsMinds domain minds := by
  refine ⟨fun entity => ?_, ?_, fun areaId => ?_⟩
  · have noObservers : observersIn minds.minds domain minds.live entity = 0 := by
      apply Finset.card_eq_zero.mpr
      rw [← subset_empty, ← isUnused]
      exact monotone_filter_right _ fun mindId _ observes => observes.1
    rw [noObservers, isInitial]
    rfl
  · have noUsers : minds.users domain = ∅ := isUnused
    rw [noUsers, isInitial]
    rfl
  · rw [isInitial]
    simp [AreaIn, isUnused, SharedAwareness.initial]

theorem CountsMinds.start (domain : Nat) : CountsMinds domain start :=
  CountsMinds.unused (filter_empty _) rfl

theorem CountsMinds.update {live : Finset Nat} {others : Nat → AwareMind} {mind : AwareMind}
    {awareness : SharedAwareness} (isLive : mindId ∈ live)
    (balanced : Balanced domain (observersIn others domain (live.erase mindId))
      (usersIn others domain (live.erase mindId)).card
      (AreaIn others domain (live.erase mindId)) mind awareness) :
    CountsMinds domain
      { live := live
        minds := Function.update others mindId mind
        awareness := awareness } := by
  have same : ∀ other ∈ live.erase mindId,
      Function.update others mindId mind other = others other := by
    intro other isOther
    exact Function.update_of_ne (ne_of_mem_erase isOther) mind others
  have sameObservers := funext (@observersIn_congr domain _ _ _ same)
  have sameAreas := funext fun areaId => propext (@areaIn_congr domain _ _ _ same areaId)
  rw [← sameObservers, ← usersIn_congr same, ← sameAreas] at balanced
  apply And.left
  apply (countsMinds_iff isLive).mpr
  simpa only [Function.update_self] using balanced

section

variable (counts : CountsMinds domain minds)

include counts

theorem CountsMinds.create (entityId : Nat) (isNew : mindId ∉ minds.live) :
    CountsMinds domain
      { minds with
        live := insert mindId minds.live
        minds := Function.update minds.minds mindId (AwareMind.create entityId) } := by
  apply CountsMinds.update (mem_insert_self mindId minds.live)
  rw [erase_insert isNew]
  refine ⟨counts.observedEntities, counts.observerCount, fun areaId => ?_, fun _ => rfl,
    fun _ => rfl⟩
  rw [counts.awareAreas areaId]
  simp [AwareMind.create]

theorem CountsMinds.happens {event : MindEvent} (ordered : Ordered minds)
    (isLive : mindId ∈ minds.live) (orderly : Orderly domain minds (.happens mindId event)) :
    CountsMinds domain (minds.perform domain (.happens mindId event)) ∧
      Ordered (minds.perform domain (.happens mindId event)) := by
  have balanced := ((countsMinds_iff isLive).mp ⟨counts, ordered mindId isLive⟩).handle
    (fun entity => by rw [observersIn_erase isLive]) (orderly isLive)
  have performed : minds.perform domain (.happens mindId event) = _ := if_pos isLive
  rw [performed]
  refine ⟨CountsMinds.update isLive balanced, fun other isOther => ?_⟩
  dsimp only
  by_cases isMind : other = mindId
  · subst isMind
    rw [Function.update_self]
    exact ⟨balanced.knowsItself, balanced.noArea⟩
  · rw [Function.update_of_ne isMind]
    exact ordered other isOther

theorem CountsMinds.destroy (ordered : Ordered minds) (isLive : mindId ∈ minds.live)
    (orderly : Orderly domain minds (.destroy mindId)) :
    CountsMinds domain (minds.perform domain (.destroy mindId)) := by
  have performed : minds.perform domain (.destroy mindId) = _ := if_pos isLive
  rw [performed]
  dsimp only
  split_ifs with isUsed
  · have balanced := (countsMinds_iff isLive).mp ⟨counts, ordered mindId isLive⟩
    have takesBack (uses : (minds.minds mindId).awareness = some domain) :=
      orderly (Finset.mem_filter.mpr ⟨isLive, uses⟩) isUsed
    simp only [TakesBack, observersIn_erase isLive] at takesBack
    obtain ⟨stores, observers, areas⟩ := balanced.destroy takesBack
    exact ⟨stores, observers, areas⟩
  · exact CountsMinds.unused (Finset.not_nonempty_iff_eq_empty.mp isUsed) rfl

theorem CountsMinds.perform (ordered : Ordered minds) (orderly : Orderly domain minds event) :
    CountsMinds domain (minds.perform domain event) ∧ Ordered (minds.perform domain event) := by
  cases event with
  | create mindId entityId =>
    by_cases isLive : mindId ∈ minds.live
    · have performed : minds.perform domain (.create mindId entityId) = minds := if_pos isLive
      rw [performed]
      exact ⟨counts, ordered⟩
    · have performed : minds.perform domain (.create mindId entityId) = _ := if_neg isLive
      rw [performed]
      refine ⟨counts.create entityId isLive, fun other isOther => ?_⟩
      dsimp only
      by_cases isMind : other = mindId
      · subst isMind
        rw [Function.update_self]
        exact ⟨fun _ => rfl, fun _ => rfl⟩
      · rw [Function.update_of_ne isMind]
        exact ordered other ((Finset.mem_insert.mp isOther).resolve_left isMind)
  | happens mindId event =>
    by_cases isLive : mindId ∈ minds.live
    · exact counts.happens ordered isLive orderly
    · have performed : minds.perform domain (.happens mindId event) = minds := if_neg isLive
      rw [performed]
      exact ⟨counts, ordered⟩
  | destroy mindId =>
    by_cases isLive : mindId ∈ minds.live
    · refine ⟨counts.destroy ordered isLive orderly, fun other isOther => ?_⟩
      have performed : minds.perform domain (.destroy mindId) = _ := if_pos isLive
      rw [performed] at isOther ⊢
      exact ordered other (mem_of_mem_erase isOther)
    · have performed : minds.perform domain (.destroy mindId) = minds := if_neg isLive
      rw [performed]
      exact ⟨counts, ordered⟩

end

/-- The numbers of observers are those of the minds that use an awareness, unless something upsets
them. -/
theorem run_countsMinds (domain : Nat) (events : List MindsEvent)
    (orderly : Admissible (perform domain) (Orderly domain) start events) :
    ∀ count, CountsMinds domain (run (perform domain) start (events.take count)) := by
  intro count
  rw [← List.take_append_drop count events, admissible_append] at orderly
  have inv := run_invariant (fun minds => CountsMinds domain minds ∧ Ordered minds)
    (fun minds event sound meets => sound.1.perform sound.2 meets)
    ⟨CountsMinds.start domain, fun mindId isLive => by simp [start] at isLive⟩ orderly.1
  exact inv.1

theorem takesBack_of_inDomain (isUser : mindId ∈ minds.users domain)
    (inDomain : (minds.minds mindId).own = some (some domain))
    (ownArea : (minds.minds mindId).hasArea = true → (minds.minds mindId).entityId = mindId)
    (notMinds : ¬ AreaIn minds.minds domain (minds.live.erase mindId) mindId) :
    TakesBack domain mindId minds := by
  obtain ⟨isLive, uses⟩ := Finset.mem_filter.mp isUser
  refine ⟨fun entity => ?_, fun hasArea => Or.inl (ownArea hasArea), notMinds⟩
  rw [inDomain]
  constructor
  · rintro ⟨isRemembered, -⟩
    exact ⟨uses, isRemembered⟩
  · intro observes
    refine ⟨observes.2, Finset.card_ne_zero.mpr ⟨mindId, ?_⟩⟩
    exact Finset.mem_filter.mpr ⟨isLive, observes⟩

/-- Two minds that meet in a domain. -/
def meeting : List MindsEvent :=
  [.create 3 3, .happens 3 (.entityAdded 3 (some 1)), .happens 3 (.entityAdded 1 none),
    .create 4 4, .happens 4 (.entityAdded 4 (some 1)), .happens 4 (.entityAdded 1 none),
    .happens 3 (.entityAdded 4 (some 1)), .happens 4 (.entityAdded 3 (some 1)),
    .happens 3 .setAwarenessArea, .destroy 3]

theorem run_countsMinds_meeting : CountsMinds 1 (run (perform 1) start (meeting.take 9)) :=
  run_countsMinds 1 meeting (by
    refine ⟨trivial, fun _ => ?_, fun _ => ?_, trivial, fun _ => ?_, fun _ => ?_, fun _ => ?_,
      fun _ => ?_, fun _ => trivial, fun isUser _ => ?_, trivial⟩
    · decide +kernel
    · decide +kernel
    · decide +kernel
    · decide +kernel
    · decide +kernel
    · decide +kernel
    · apply takesBack_of_inDomain isUser
      · decide +kernel
      · decide +kernel
      · decide +kernel) 9

/-- The loop leaves out the mind itself. -/
theorem run_not_countsMinds :
    ¬ ∀ (domain : Nat) (events : List MindsEvent),
      CountsMinds domain (run (perform domain) start events) := by
  intro always
  have counts := (always 1 [.create 7 3, .happens 7 (.entityAdded 3 (some 1)),
    .happens 7 (.entityAdded 1 none)]).observedEntities 3
  revert counts
  decide +kernel

end Minds

end Cyphesis.Ai
