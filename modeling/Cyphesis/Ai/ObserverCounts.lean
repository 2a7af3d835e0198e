import Cyphesis.Ai.AwareMind

/-!
# How many minds observe an entity

The number stored for an entity should be the number of minds that remember it as a child of the
domain entity.
-/

namespace Cyphesis.Ai

open Std (ExtTreeMap)
open Cyphesis.Foundation Option Std.ExtTreeMap

variable (count : Nat)

/-- What is stored for so many observers. -/
def storedCount : Option Int :=
  if count = 0 then none else some count

/-- One observer more, and one less. -/
def raised (held : Option Int) : Option Int :=
  some (held.getD 0 + 1)

def lowered (held : Option Int) : Option Int :=
  held.bind fun count => if count - 1 = 0 then none else some (count - 1)

theorem raised_storedCount : raised (storedCount count) = storedCount (count + 1) := by
  rcases count with _ | count
  · rfl
  · simp [raised, storedCount]

theorem lowered_storedCount : lowered (storedCount count) = storedCount (count - 1) := by
  rcases count with _ | _ | count
  · rfl
  · rfl
  · have positive : (count : Int) + 1 ≠ 0 := by omega
    simp [lowered, storedCount, positive]

namespace SharedAwareness

variable {awareness : SharedAwareness} {tally other : Nat → Nat}

section

variable (awareness) (entity key : Nat)

theorem addEntity_getElem? :
    (awareness.addEntity entity).observedEntities[key]? =
      if entity = key then raised awareness.observedEntities[key]?
      else awareness.observedEntities[key]? := by
  unfold addEntity raised
  by_cases same : entity = key
  · subst same
    cases found : awareness.observedEntities[entity]? <;> simp
  · cases found : awareness.observedEntities[entity]? <;>
      simp [getElem?_insert, same]

theorem removeEntity_getElem? :
    (awareness.removeEntity entity).observedEntities[key]? =
      if entity = key then lowered awareness.observedEntities[key]?
      else awareness.observedEntities[key]? := by
  unfold removeEntity lowered
  by_cases same : entity = key
  · subst same
    cases found : awareness.observedEntities[entity]? with
    | none => simp [found]
    | some count =>
      by_cases last : count - 1 = 0
      · simp [last]
      · simp [last]
  · cases found : awareness.observedEntities[entity]? with
    | none => simp [same]
    | some count =>
      by_cases last : count - 1 = 0
      · simp [last, getElem?_erase, same]
      · simp [last, getElem?_insert, same]

end

/-- The numbers that are stored are these. -/
def Stores (awareness : SharedAwareness) (tally : Nat → Nat) : Prop :=
  ∀ entity : Nat, awareness.observedEntities[entity]? = storedCount (tally entity)

section

variable (stores : awareness.Stores tally)

include stores

theorem Stores.congr (same : ∀ entity, other entity = tally entity) : awareness.Stores other := by
  intro entity
  rw [stores entity, same]

variable (entity : Nat)

theorem Stores.addEntity :
    (awareness.addEntity entity).Stores fun key =>
      if entity = key then tally key + 1 else tally key := by
  intro key
  change _ = storedCount (if entity = key then tally key + 1 else tally key)
  rw [addEntity_getElem?, stores key]
  split_ifs
  · exact raised_storedCount _
  · rfl

theorem Stores.removeEntity :
    (awareness.removeEntity entity).Stores fun key =>
      if entity = key then tally key - 1 else tally key := by
  intro key
  change _ = storedCount (if entity = key then tally key - 1 else tally key)
  rw [removeEntity_getElem?, stores key]
  split_ifs
  · exact lowered_storedCount _
  · rfl

theorem Stores.contains : awareness.observedEntities.contains entity = true ↔ tally entity ≠ 0 := by
  rw [contains_eq_isSome_getElem?, stores entity, storedCount]
  split_ifs with isZero
  · simp [isZero]
  · simp [isZero]

end

end SharedAwareness

namespace AwareMind

variable {mind : AwareMind} {awareness : SharedAwareness} {domain mindId : Nat}

open SharedAwareness

/-- What a mind adds to the number of observers. -/
def share (mind : AwareMind) (domain entity : Nat) : Nat :=
  if mind.Observes domain entity then 1 else 0

/-- Right, for `rest` other observers. -/
structure Balanced (domain : Nat) (rest : Nat → Nat) (users : Nat) (areas : Nat → Prop)
    (mind : AwareMind) (awareness : SharedAwareness) : Prop where
  stores : awareness.Stores fun entity => rest entity + mind.share domain entity
  observers : awareness.observerCount =
    (users + if mind.awareness = some domain then 1 else 0 : Nat)
  awareAreas : ∀ areaId, areaId ∈ awareness.awareAreas ↔
    areas areaId ∨ mind.awareness = some domain ∧ mind.hasArea = true ∧ mind.entityId = areaId
  knowsItself : mind.own = none → mind.awareness = none
  noArea : mind.awareness = none → mind.hasArea = false

/-- The mind asks when it is told of this entity. -/
def Requests (mind : AwareMind) (domain entity : Nat) : Prop :=
  mind.awareness = none ∧ mind.own = some (some entity) ∧ entity = domain

/-- The own entity is remembered in the domain. -/
def CountsItselfOnce (mind : AwareMind) (domain mindId : Nat) : Prop :=
  mind.entityId = mindId ∧ mind.memory[mind.entityId]? = some (some domain)

/-- The numbers stay right. -/
def Orderly (domain mindId : Nat) (mind : AwareMind) (observed : Nat → Prop) : MindEvent → Prop
  | .readUntold entity loc =>
    mind.Observes domain entity ↔ (mind.readEntity entity loc).Observes domain entity
  | .orphaned entity => ¬ mind.Observes domain entity
  | .forgotten entity => ¬ mind.Observes domain entity
  | .entityAdded entity loc =>
    let after := mind.readEntity entity loc
    (mind.awareness = some domain →
      if after.own = some (after.parentOf entity) then
        ¬ mind.Observes domain entity ∧ after.parentOf entity = some domain
      else (mind.Observes domain entity ↔ after.Observes domain entity)) ∧
    (after.Requests domain entity → after.CountsItselfOnce domain mindId)
  | .entityUpdated entity loc =>
    let after := mind.readEntity entity loc
    (mind.awareness = some domain → observed entity → mind.Observes domain entity) ∧
    (after.Requests domain entity → after.CountsItselfOnce domain mindId)
  | .entityDeleted entity =>
    mind.awareness = some domain → observed entity → mind.Observes domain entity
  | .setAwarenessArea => True

instance (mind : AwareMind) (domain entity : Nat) : Decidable (mind.Requests domain entity) :=
  inferInstanceAs (Decidable (_ ∧ _ ∧ _))

instance (mind : AwareMind) (domain mindId : Nat) :
    Decidable (mind.CountsItselfOnce domain mindId) :=
  inferInstanceAs (Decidable (_ ∧ _))

instance (domain mindId : Nat) (mind : AwareMind) (observed : Nat → Prop)
    [DecidablePred observed] (event : MindEvent) :
    Decidable (Orderly domain mindId mind observed event) := by
  cases event with
  | readUntold entity loc => exact inferInstanceAs (Decidable (_ ↔ _))
  | orphaned entity => exact inferInstanceAs (Decidable (¬ _))
  | forgotten entity => exact inferInstanceAs (Decidable (¬ _))
  | entityAdded entity loc =>
    change Decidable ((_ → _) ∧ (_ → _))
    infer_instance
  | entityUpdated entity loc => exact inferInstanceAs (Decidable ((_ → _ → _) ∧ (_ → _)))
  | entityDeleted entity => exact inferInstanceAs (Decidable (_ → _ → _))
  | setAwarenessArea => exact inferInstanceAs (Decidable True)

section

variable (mind) (entity key : Nat)

theorem memory_setParent (parent : Option Nat) :
    (mind.setParent entity parent).memory[key]? =
      if entity = key then some parent else mind.memory[key]? := by
  unfold setParent
  by_cases same : entity = key <;> simp [getElem?_insert, same]

theorem memory_forget :
    (mind.forget entity).memory[key]? = if entity = key then none else mind.memory[key]? := by
  unfold forget
  by_cases same : entity = key <;> simp [getElem?_erase, same]

end

theorem share_of_observes {entity : Nat} (observes : mind.Observes domain entity) :
    mind.share domain entity = 1 :=
  if_pos observes

theorem share_of_not_observes {entity : Nat} (not : ¬ mind.Observes domain entity) :
    mind.share domain entity = 0 :=
  if_neg not

theorem share_of_not_using (notUsing : mind.awareness ≠ some domain) (entity : Nat) :
    mind.share domain entity = 0 :=
  share_of_not_observes fun observes => notUsing observes.1

theorem share_congr {changed : AwareMind} {entity : Nat}
    (same : changed.Observes domain entity ↔ mind.Observes domain entity) :
    changed.share domain entity = mind.share domain entity := by
  by_cases observes : mind.Observes domain entity
  · rw [share_of_observes observes, share_of_observes (same.mpr observes)]
  · rw [share_of_not_observes observes, share_of_not_observes (observes ∘ same.mp)]

theorem share_setParent_of_ne {entity key : Nat} (parent : Option Nat) (different : entity ≠ key) :
    (mind.setParent entity parent).share domain key = mind.share domain key := by
  apply share_congr
  unfold Observes
  rw [memory_setParent, if_neg different]
  rfl

theorem share_forget_of_ne {entity key : Nat} (different : entity ≠ key) :
    (mind.forget entity).share domain key = mind.share domain key := by
  apply share_congr
  unfold Observes
  rw [memory_forget, if_neg different]
  rfl

theorem share_forget_self (entity : Nat) : (mind.forget entity).share domain entity = 0 := by
  apply share_of_not_observes
  rintro ⟨-, isRemembered⟩
  rw [memory_forget, if_pos rfl] at isRemembered
  cases isRemembered

section

variable (mind) (entity : Nat)

theorem parentOf_setParent (parent : Option Nat) :
    (mind.setParent entity parent).parentOf entity = parent := by
  unfold parentOf
  rw [memory_setParent, if_pos rfl]
  rfl

theorem readEntity_eq (loc : Option Nat) :
    mind.readEntity entity loc =
      mind.setParent entity ((mind.readEntity entity loc).parentOf entity) := by
  unfold readEntity
  rw [parentOf_setParent]

theorem memory_readEntity (loc : Option Nat) :
    (mind.readEntity entity loc).memory[entity]? =
      some ((mind.readEntity entity loc).parentOf entity) := by
  conv_lhs => rw [readEntity_eq]
  rw [memory_setParent, if_pos rfl]

end

theorem observes_readEntity {entity : Nat} {loc : Option Nat} :
    (mind.readEntity entity loc).Observes domain entity ↔
      mind.awareness = some domain ∧
        (mind.readEntity entity loc).parentOf entity = some domain := by
  unfold Observes
  rw [memory_readEntity, Option.some.injEq]
  rfl

theorem share_readEntity_of_ne {entity key : Nat} (loc : Option Nat) (different : entity ≠ key) :
    (mind.readEntity entity loc).share domain key = mind.share domain key := by
  rw [readEntity_eq]
  exact share_setParent_of_ne _ different

theorem own_setParent {entity : Nat} {parent : Option Nat} :
    (mind.setParent entity parent).own = none → mind.own = none := by
  unfold setParent
  dsimp only
  split_ifs
  · intro isNone
    cases isNone
  · exact id

theorem own_forget {entity : Nat} : (mind.forget entity).own = none → mind.own = none := by
  unfold forget
  dsimp only
  split_ifs
  · intro isNone
    cases isNone
  · exact id

theorem addRemembered_fields (mind : AwareMind) (mindId : Nat) (parent : Option Nat)
    (awareness : SharedAwareness) :
    (mind.addRemembered mindId parent awareness).observerCount = awareness.observerCount ∧
      (mind.addRemembered mindId parent awareness).awareAreas = awareness.awareAreas := by
  unfold addRemembered
  rw [foldl_eq_foldl_toList]
  induction mind.memory.toList generalizing awareness with
  | nil => exact ⟨rfl, rfl⟩
  | cons entry rest ih =>
    rw [List.foldl_cons]
    obtain ⟨count, areas⟩ := ih (if entry.1 ≠ mindId ∧ entry.2 = parent then
      awareness.addEntity entry.1 else awareness)
    rw [count, areas]
    split_ifs
    · exact ⟨rfl, rfl⟩
    · exact ⟨rfl, rfl⟩

theorem removeRemembered_fields (mind : AwareMind) (parent : Option Nat)
    (awareness : SharedAwareness) :
    (mind.removeRemembered parent awareness).observerCount = awareness.observerCount ∧
      (mind.removeRemembered parent awareness).awareAreas = awareness.awareAreas := by
  unfold removeRemembered
  rw [foldl_eq_foldl_toList]
  induction mind.memory.toList generalizing awareness with
  | nil => exact ⟨rfl, rfl⟩
  | cons entry rest ih =>
    rw [List.foldl_cons]
    obtain ⟨count, areas⟩ := ih (if entry.2 = parent then
      awareness.removeEntity entry.1 else awareness)
    rw [count, areas]
    split_ifs
    · exact ⟨rfl, rfl⟩
    · exact ⟨rfl, rfl⟩

variable {tally : Nat → Nat}

theorem addRemembered_stores (stores : awareness.Stores tally)
    (mind : AwareMind) (mindId : Nat) (parent : Option Nat) :
    (mind.addRemembered mindId parent awareness).Stores fun key =>
      tally key + if key ≠ mindId ∧ mind.memory[key]? = some parent then 1 else 0 := by
  intro key
  have slot := foldl_map_slot
    (fun (awareness : SharedAwareness) (key : Nat) => awareness.observedEntities[key]?)
    (fun awareness entity found =>
      if entity ≠ mindId ∧ found = parent then awareness.addEntity entity else awareness)
    (fun entity found held => if entity ≠ mindId ∧ found = parent then raised held else held)
    (by
      intro awareness entity found
      split_ifs
      · rw [addEntity_getElem?, if_pos rfl]
      · rfl)
    (by
      intro awareness entity found other different
      split_ifs
      · rw [addEntity_getElem?, if_neg (Ne.symm different)]
      · rfl)
    mind.memory awareness key
  change _ = storedCount
    (tally key + if key ≠ mindId ∧ mind.memory[key]? = some parent then 1 else 0)
  rw [AwareMind.addRemembered, slot, stores key]
  cases isRemembered : mind.memory[key]? with
  | none => simp
  | some found =>
    by_cases counts : key ≠ mindId ∧ found = parent
    · rw [elim_some, if_pos counts, raised_storedCount]
      simp [counts]
    · rw [elim_some, if_neg counts]
      simp only [Option.some.injEq, if_neg counts, Nat.add_zero]

theorem removeRemembered_stores (stores : awareness.Stores tally)
    (mind : AwareMind) (parent : Option Nat) :
    (mind.removeRemembered parent awareness).Stores fun key =>
      tally key - if mind.memory[key]? = some parent then 1 else 0 := by
  intro key
  have slot := foldl_map_slot
    (fun (awareness : SharedAwareness) (key : Nat) => awareness.observedEntities[key]?)
    (fun awareness entity found =>
      if found = parent then awareness.removeEntity entity else awareness)
    (fun _ found held => if found = parent then lowered held else held)
    (by
      intro awareness entity found
      split_ifs
      · rw [removeEntity_getElem?, if_pos rfl]
      · rfl)
    (by
      intro awareness entity found other different
      split_ifs
      · rw [removeEntity_getElem?, if_neg (Ne.symm different)]
      · rfl)
    mind.memory awareness key
  change _ = storedCount (tally key - if mind.memory[key]? = some parent then 1 else 0)
  rw [AwareMind.removeRemembered, slot, stores key]
  cases isRemembered : mind.memory[key]? with
  | none => simp
  | some found =>
    by_cases counts : found = parent
    · rw [elim_some, if_pos counts, lowered_storedCount]
      simp [counts]
    · rw [elim_some, if_neg counts]
      simp only [Option.some.injEq, if_neg counts, Nat.sub_zero]

section Events

variable {rest : Nat → Nat} {users : Nat} {areas : Nat → Prop} {observed : Nat → Prop}
  {entity : Nat} {loc : Option Nat}

section

variable (balanced : Balanced domain rest users areas mind awareness)

include balanced

variable {after : AwareMind}

theorem Balanced.update {updated : SharedAwareness}
    (stores : updated.Stores fun entity => rest entity + after.share domain entity)
    (counts : updated.observerCount = awareness.observerCount ∧
      updated.awareAreas = awareness.awareAreas)
    (keeps : after.awareness = mind.awareness ∧ after.hasArea = mind.hasArea ∧
      after.entityId = mind.entityId) (knows : after.own = none → mind.own = none) :
    Balanced domain rest users areas after updated := by
  obtain ⟨sameUse, sameArea, sameId⟩ := keeps
  refine ⟨stores, ?_, ?_, ?_, ?_⟩
  · rw [counts.1, sameUse]
    exact balanced.observers
  · intro areaId
    rw [counts.2, sameUse, sameArea, sameId]
    exact balanced.awareAreas areaId
  · intro unknown
    rw [sameUse]
    exact balanced.knowsItself (knows unknown)
  · intro notUsing
    rw [sameArea]
    exact balanced.noArea (sameUse ▸ notUsing)

theorem Balanced.quiet
    (same : ∀ entity, after.share domain entity = mind.share domain entity)
    (keeps : after.awareness = mind.awareness ∧ after.hasArea = mind.hasArea ∧
      after.entityId = mind.entityId) (knows : after.own = none → mind.own = none) :
    Balanced domain rest users areas after awareness :=
  balanced.update (balanced.stores.congr fun entity => by rw [same entity]) ⟨rfl, rfl⟩ keeps knows

theorem Balanced.setParent {parent : Option Nat}
    (same : mind.Observes domain entity ↔ (mind.setParent entity parent).Observes domain entity) :
    Balanced domain rest users areas (mind.setParent entity parent) awareness := by
  refine balanced.quiet (fun key => ?_) ⟨rfl, rfl, rfl⟩ own_setParent
  by_cases isEntity : entity = key
  · subst isEntity
    exact share_congr same.symm
  · exact share_setParent_of_ne parent isEntity

theorem Balanced.forget (unobserved : ¬ mind.Observes domain entity) :
    Balanced domain rest users areas (mind.forget entity) awareness := by
  refine balanced.quiet (fun key => ?_) ⟨rfl, rfl, rfl⟩ own_forget
  by_cases isEntity : entity = key
  · subst isEntity
    rw [share_forget_self, share_of_not_observes unobserved]
  · exact share_forget_of_ne isEntity

theorem Balanced.idle (notUsing : mind.awareness ≠ some domain)
    (keeps : after.awareness = mind.awareness ∧ after.hasArea = mind.hasArea ∧
      after.entityId = mind.entityId) (knows : after.own = none → mind.own = none) :
    Balanced domain rest users areas after awareness := by
  apply balanced.quiet ?_ keeps knows
  intro key
  rw [share_of_not_using notUsing, share_of_not_using (keeps.1 ▸ notUsing)]

theorem Balanced.readEntity
    (same : mind.Observes domain entity ↔ (mind.readEntity entity loc).Observes domain entity) :
    Balanced domain rest users areas (mind.readEntity entity loc) awareness := by
  rw [readEntity_eq] at same ⊢
  exact balanced.setParent same

theorem Balanced.readEntity_counted (before : ¬ mind.Observes domain entity)
    (after : (mind.readEntity entity loc).Observes domain entity) :
    Balanced domain rest users areas (mind.readEntity entity loc) (awareness.addEntity entity) := by
  refine balanced.update ((balanced.stores.addEntity entity).congr fun key => ?_)
    ⟨rfl, rfl⟩ ⟨rfl, rfl, rfl⟩ own_setParent
  by_cases isEntity : entity = key
  · subst isEntity
    rw [if_pos rfl, share_of_observes after, share_of_not_observes before]
  · rw [if_neg isEntity, share_readEntity_of_ne loc isEntity]

theorem Balanced.readEntity_dropped (before : mind.Observes domain entity)
    (after : ¬ (mind.readEntity entity loc).Observes domain entity) :
    Balanced domain rest users areas (mind.readEntity entity loc)
      (awareness.removeEntity entity) := by
  refine balanced.update ((balanced.stores.removeEntity entity).congr fun key => ?_)
    ⟨rfl, rfl⟩ ⟨rfl, rfl, rfl⟩ own_setParent
  by_cases isEntity : entity = key
  · subst isEntity
    rw [if_pos rfl, share_of_observes before, share_of_not_observes after]
    rfl
  · rw [if_neg isEntity, share_readEntity_of_ne loc isEntity]

theorem Balanced.readEntity_idle (notUsing : mind.awareness ≠ some domain) :
    Balanced domain rest users areas (mind.readEntity entity loc) awareness :=
  balanced.idle notUsing ⟨rfl, rfl, rfl⟩ own_setParent

theorem Balanced.meetOwnEntity (unknown : mind.own = none) :
    Balanced domain rest users areas (mind.meetOwnEntity entity) awareness := by
  have notUsing : mind.awareness ≠ some domain := by
    rw [balanced.knowsItself unknown]
    exact some_ne_none domain ∘ Eq.symm
  unfold AwareMind.meetOwnEntity
  split_ifs
  · refine balanced.idle notUsing ⟨rfl, rfl, rfl⟩ ?_
    intro isNone
    cases isNone
  · exact balanced

/-- A mind begins to use the awareness. -/
theorem Balanced.joins (idle : mind.awareness = none) (inDomain : mind.own = some (some domain))
    (once : mind.CountsItselfOnce domain mindId) :
    Balanced domain rest users areas { mind with awareness := some domain }
      (mind.addRemembered mindId (some domain)
        (awareness.addObserver.addEntity mind.entityId)) := by
  obtain ⟨sameId, isRemembered⟩ := once
  have notUsing : mind.awareness ≠ some domain := by simp [idle]
  have noArea : mind.hasArea = false := balanced.noArea idle
  have fields := addRemembered_fields mind mindId (some domain)
    (awareness.addObserver.addEntity mind.entityId)
  have stores : awareness.addObserver.Stores _ := balanced.stores
  have looped := addRemembered_stores (stores.addEntity mind.entityId) mind mindId (some domain)
  refine ⟨looped.congr ?_, ?_, ?_, ?_, ?_⟩
  · intro key
    rw [share_of_not_using notUsing key]
    by_cases isOwn : mind.entityId = key
    · subst isOwn
      have counted : ({ mind with awareness := some domain } : AwareMind).share domain mind.entityId
          = 1 := share_of_observes ⟨rfl, isRemembered⟩
      rw [counted]
      simp [sameId]
    · have isOther : key ≠ mindId := fun isMind => isOwn (sameId.trans isMind.symm)
      simp [isOwn, isOther, share, Observes]
  · rw [fields.1]
    change awareness.observerCount + 1 = _
    rw [balanced.observers, if_neg notUsing]
    simp
  · intro areaId
    rw [fields.2]
    change areaId ∈ awareness.awareAreas ↔ _
    rw [balanced.awareAreas areaId]
    simp [noArea]
  · intro unknown
    rw [inDomain] at unknown
    cases unknown
  · intro isNone
    cases isNone

section

variable (idle : mind.awareness = none) (inEntity : mind.own = some (some entity))

include idle inEntity

theorem Balanced.joinsOther (isOther : entity ≠ domain) :
    Balanced domain rest users areas { mind with awareness := some entity } awareness := by
  have notUsing : mind.awareness ≠ some domain := by simp [idle]
  have stillNot : some entity ≠ some domain := by simpa using isOther
  refine ⟨balanced.stores.congr ?_, ?_, ?_, ?_, ?_⟩
  · intro key
    rw [share_of_not_using notUsing, share_of_not_using stillNot]
  · rw [if_neg stillNot]
    simpa [notUsing] using balanced.observers
  · intro areaId
    rw [balanced.awareAreas areaId]
    simp [notUsing, isOther]
  · intro unknown
    rw [inEntity] at unknown
    cases unknown
  · intro isNone
    cases isNone

theorem Balanced.requestAwareness
    (once : mind.Requests domain entity → mind.CountsItselfOnce domain mindId) :
    Balanced domain rest users areas
      (mind.requestAwareness domain mindId entity awareness).1
      (mind.requestAwareness domain mindId entity awareness).2 := by
  unfold AwareMind.requestAwareness
  by_cases isDomain : entity = domain
  · subst isDomain
    rw [if_pos rfl, inEntity]
    have joined := balanced.joins idle inEntity (once ⟨idle, inEntity, rfl⟩)
    simpa only [inEntity, getD_some] using joined
  · rw [if_neg isDomain]
    exact balanced.joinsOther idle inEntity isDomain

end

theorem Balanced.entityAdded (counts : mind.awareness = some domain →
      if (mind.readEntity entity loc).own = some ((mind.readEntity entity loc).parentOf entity) then
      ¬ mind.Observes domain entity ∧ (mind.readEntity entity loc).parentOf entity = some domain
      else (mind.Observes domain entity ↔ (mind.readEntity entity loc).Observes domain entity))
    (once : (mind.readEntity entity loc).Requests domain entity →
      (mind.readEntity entity loc).CountsItselfOnce domain mindId) :
    Balanced domain rest users areas
      ((mind.readEntity entity loc).entityAdded domain mindId entity awareness).1
      ((mind.readEntity entity loc).entityAdded domain mindId entity awareness).2 := by
  have sameUse : (mind.readEntity entity loc).awareness = mind.awareness := rfl
  unfold AwareMind.entityAdded
  cases isOwn : (mind.readEntity entity loc).own with
  | none =>
    have notUsing : mind.awareness ≠ some domain := by
      simp [balanced.knowsItself (own_setParent isOwn)]
    exact (balanced.readEntity_idle notUsing).meetOwnEntity isOwn
  | some parent =>
    cases uses : (mind.readEntity entity loc).awareness with
    | none =>
      have notUsing : mind.awareness ≠ some domain := by simp [← sameUse, uses]
      have idle : Balanced domain rest users areas (mind.readEntity entity loc) awareness :=
        balanced.readEntity_idle notUsing
      dsimp only
      split_ifs with isDomain
      · exact idle.requestAwareness uses (isDomain ▸ isOwn) once
      · exact idle
    | some used =>
      dsimp only
      by_cases isDomain : used = domain
      · subst isDomain
        have counted := counts (sameUse ▸ uses)
        simp only [isOwn, Option.some.injEq] at counted
        by_cases inDomain : parent = (mind.readEntity entity loc).parentOf entity
        · rw [if_pos inDomain] at counted
          rw [if_pos ⟨rfl, inDomain.symm⟩]
          have after : (mind.readEntity entity loc).Observes used entity :=
            observes_readEntity.mpr ⟨uses, counted.2⟩
          exact balanced.readEntity_counted counted.1 after
        · rw [if_neg inDomain] at counted
          rw [if_neg fun both => inDomain both.2.symm]
          exact balanced.readEntity counted
      · rw [if_neg fun both => isDomain both.1]
        apply balanced.readEntity_idle
        rw [← sameUse, uses]
        simpa using isDomain

section

variable
  (counts : mind.awareness = some domain → rest entity + mind.share domain entity ≠ 0 →
    mind.Observes domain entity)

include counts

theorem Balanced.entityUpdated (once : (mind.readEntity entity loc).Requests domain entity →
      (mind.readEntity entity loc).CountsItselfOnce domain mindId) :
    Balanced domain rest users areas
      ((mind.readEntity entity loc).entityUpdated domain mindId entity awareness).1
      ((mind.readEntity entity loc).entityUpdated domain mindId entity awareness).2 := by
  have sameUse : (mind.readEntity entity loc).awareness = mind.awareness := rfl
  unfold AwareMind.entityUpdated
  cases uses : (mind.readEntity entity loc).awareness with
  | none =>
    have notUsing : mind.awareness ≠ some domain := by simp [← sameUse, uses]
    have idle : Balanced domain rest users areas (mind.readEntity entity loc) awareness :=
      balanced.readEntity_idle notUsing
    dsimp only
    split_ifs with inEntity
    · exact idle.requestAwareness uses inEntity once
    · exact idle
  | some used =>
    dsimp only
    by_cases isDomain : used = domain
    · subst isDomain
      rw [if_pos rfl]
      unfold SharedAwareness.updateEntity
      by_cases isStored : rest entity + mind.share used entity ≠ 0
      · have before := counts (sameUse ▸ uses) isStored
        rw [if_pos ((balanced.stores.contains entity).mpr isStored)]
        split_ifs with leaves
        · exact balanced.readEntity_dropped before
            fun after => leaves (observes_readEntity.mp after).2
        · exact balanced.readEntity
            (iff_of_true before (observes_readEntity.mpr ⟨uses, not_not.mp leaves⟩))
      · have before : ¬ mind.Observes used entity := by
          intro observes
          rw [share_of_observes observes] at isStored
          omega
        rw [if_neg (isStored ∘ (balanced.stores.contains entity).mp)]
        split_ifs with enters
        · exact balanced.readEntity_counted before (observes_readEntity.mpr ⟨uses, enters⟩)
        · exact balanced.readEntity
            (iff_of_false before fun after => enters (observes_readEntity.mp after).2)
    · rw [if_neg isDomain]
      apply balanced.readEntity_idle
      rw [← sameUse, uses]
      simpa using isDomain

theorem Balanced.entityDeleted :
    Balanced domain rest users areas (mind.forget entity)
      (mind.entityDeleted domain entity awareness) := by
  unfold AwareMind.entityDeleted
  split_ifs with uses
  · refine balanced.update ((balanced.stores.removeEntity entity).congr fun key => ?_)
      ⟨rfl, rfl⟩ ⟨rfl, rfl, rfl⟩ own_forget
    by_cases isEntity : entity = key
    · subst isEntity
      rw [if_pos rfl, share_forget_self]
      by_cases before : mind.Observes domain entity
      · rw [share_of_observes before]
        rfl
      · have isZero : rest entity + mind.share domain entity = 0 :=
          not_not.mp (before ∘ counts uses)
        omega
    · rw [if_neg isEntity, share_forget_of_ne isEntity]
  · exact balanced.forget fun observes => uses observes.1

end

theorem Balanced.setAwarenessArea :
    Balanced domain rest users areas (mind.setAwarenessArea domain awareness).1
      (mind.setAwarenessArea domain awareness).2 := by
  cases uses : mind.awareness with
  | none =>
    have unchanged : mind.setAwarenessArea domain awareness = (mind, awareness) := by
      unfold AwareMind.setAwarenessArea
      rw [uses]
    rw [unchanged]
    exact balanced
  | some used =>
    have changed : mind.setAwarenessArea domain awareness =
        ({ mind with hasArea := true },
          if used = domain then awareness.setAwarenessArea mind.entityId else awareness) := by
      unfold AwareMind.setAwarenessArea
      rw [uses]
    have sameUse (entity : Nat) : ({ mind with hasArea := true } : AwareMind).share domain entity
        = mind.share domain entity := rfl
    rw [changed]
    refine ⟨?_, ?_, ?_, balanced.knowsItself, fun idle => ?_⟩
    · simp only [sameUse]
      split_ifs
      · exact balanced.stores
      · exact balanced.stores
    · rw [apply_ite SharedAwareness.observerCount]
      exact (ite_self _).trans balanced.observers
    · intro areaId
      by_cases isDomain : used = domain
      · subst isDomain
        rw [if_pos rfl]
        change areaId ∈ insert mind.entityId awareness.awareAreas ↔ _
        rw [Finset.mem_insert, balanced.awareAreas areaId, eq_comm]
        simp only [uses, true_and]
        tauto
      · rw [if_neg isDomain, balanced.awareAreas areaId]
        simp [uses, isDomain]
    · exact absurd (uses.symm.trans idle) (some_ne_none used)

/-- A mind leaves what the others have given. -/
theorem Balanced.destroy (takesBack : mind.awareness = some domain →
      (∀ entity : Nat, mind.memory[entity]? = mind.own ∧
      rest entity + mind.share domain entity ≠ 0 ↔ mind.Observes domain entity) ∧
      (mind.hasArea = true → mind.entityId = mindId ∨ areas mind.entityId) ∧ ¬ areas mindId) :
    (mind.destroy domain mindId awareness).Stores rest ∧
      (mind.destroy domain mindId awareness).observerCount = users ∧
      ∀ areaId, areaId ∈ (mind.destroy domain mindId awareness).awareAreas ↔ areas areaId := by
  by_cases uses : mind.awareness = some domain
  · obtain ⟨same, ownArea, notMinds⟩ := takesBack uses
    obtain ⟨parent, isOwn⟩ : ∃ parent, mind.own = some parent := by
      apply Option.ne_none_iff_exists'.mp
      intro unknown
      rw [balanced.knowsItself unknown] at uses
      cases uses
    have fields := removeRemembered_fields mind parent awareness
    have destroyed : mind.destroy domain mindId awareness =
        ((mind.removeRemembered parent awareness).removeAwarenessArea mindId).removeObserver := by
      unfold AwareMind.destroy
      rw [isOwn]
      exact if_pos uses
    rw [destroyed]
    refine ⟨?_, ?_, fun areaId => ?_⟩
    · refine (removeRemembered_stores balanced.stores mind parent).congr fun entity => ?_
      have sameHere := same entity
      rw [isOwn] at sameHere
      by_cases observes : mind.Observes domain entity
      · rw [if_pos (sameHere.mpr observes).1, share_of_observes observes, Nat.add_sub_cancel]
      · rw [share_of_not_observes observes] at sameHere ⊢
        split_ifs with isTaken
        · have isZero : rest entity + 0 = 0 :=
            not_not.mp fun isStored => observes (sameHere.mp ⟨isTaken, isStored⟩)
          omega
        · rfl
    · change (mind.removeRemembered parent awareness).observerCount - 1 = _
      rw [fields.1, balanced.observers, if_pos uses]
      push_cast
      omega
    · change areaId ∈ (mind.removeRemembered parent awareness).awareAreas.erase mindId ↔ _
      rw [fields.2, Finset.mem_erase, balanced.awareAreas areaId]
      constructor
      · rintro ⟨isOther, isArea | ⟨-, hasArea, rfl⟩⟩
        · exact isArea
        · exact (ownArea hasArea).resolve_left isOther
      · intro isArea
        exact ⟨fun isMind => notMinds (isMind ▸ isArea), Or.inl isArea⟩
  · have unchanged : mind.destroy domain mindId awareness = awareness := by
      unfold AwareMind.destroy
      cases mind.own with
      | none => rfl
      | some parent => exact if_neg uses
    rw [unchanged]
    refine ⟨balanced.stores.congr fun entity => ?_, ?_, fun areaId => ?_⟩
    · rw [share_of_not_using uses, Nat.add_zero]
    · rw [balanced.observers, if_neg uses, Nat.add_zero]
    · rw [balanced.awareAreas areaId]
      simp [uses]

theorem Balanced.handle {event : MindEvent}
    (isObserved : ∀ entity, observed entity ↔ rest entity + mind.share domain entity ≠ 0)
    (orderly : Orderly domain mindId mind observed event) :
    Balanced domain rest users areas (Minds.handle domain mindId mind awareness event).1
      (Minds.handle domain mindId mind awareness event).2 := by
  cases event with
  | readUntold entity loc => exact balanced.readEntity orderly
  | orphaned entity =>
    refine balanced.setParent (iff_of_false orderly ?_)
    rintro ⟨-, isRemembered⟩
    rw [memory_setParent, if_pos rfl] at isRemembered
    cases isRemembered
  | forgotten entity => exact balanced.forget orderly
  | entityAdded entity loc => exact balanced.entityAdded orderly.1 orderly.2
  | entityUpdated entity loc =>
    exact balanced.entityUpdated
      (fun uses isStored => orderly.1 uses ((isObserved entity).mpr isStored)) orderly.2
  | entityDeleted entity =>
    exact balanced.entityDeleted fun uses isStored =>
      orderly uses ((isObserved entity).mpr isStored)
  | setAwarenessArea => exact balanced.setAwarenessArea

end

end Events

end AwareMind

end Cyphesis.Ai
