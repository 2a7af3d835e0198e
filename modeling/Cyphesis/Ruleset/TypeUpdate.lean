import Cyphesis.Ruleset.Ruleset
import Mathlib.Data.Finset.Sort
import Mathlib.Data.String.Basic

/-!
# Live entities and type updates

`TypeUpdateCoordinator` applies changed default properties to the entities without a value of their
own. What applying a property does is a parameter.
-/

namespace Cyphesis.Ruleset

open List

open Std (ExtTreeMap)

/-- Types, and the names of own values. -/
structure Population where
  entities : ExtTreeMap Nat String
  own : Nat → Finset String

/-- No own property comes or goes. -/
structure ApplyEffect where
  apply : (Nat → Finset String) → Nat → String → Nat → Finset String
  grows : ∀ own entity name other, own other ⊆ apply own entity name other
  notOwn : ∀ own entity name, name ∉ own entity → name ∉ apply own entity name entity

/-- Own properties, and defaults applied. -/
structure Application where
  own : Nat → Finset String
  applied : List (Nat × String)

namespace ApplyEffect

variable (effect : ApplyEffect)

/-- Unless it has its own. -/
def applyDefault (entity : Nat) (state : Application) (name : String) : Application :=
  if name ∈ state.own entity then state
  else ⟨effect.apply state.own entity name, state.applied ++ [(entity, name)]⟩

/-- One loop over names in order. -/
def applyAll (names : Finset String) (state : Application) (entity : Nat) : Application :=
  (names.sort (· ≤ ·)).foldl (effect.applyDefault entity) state

/-- The same ones are gone through twice. -/
def updateEntity (update : PropertiesUpdate) (state : Application) (entity : Nat) : Application :=
  effect.applyAll update.changedProps (effect.applyAll update.changedProps state entity) entity

/-- Step of the loop over all entities. -/
def updateIfChanged (changes : Changes) (state : Application) (entry : Nat × String) :
    Application :=
  match changes[entry.2]? with
  | some update => effect.updateEntity update state entry.1
  | none => state

/-- What `typesUpdated` does to the entities of a type. -/
def typesUpdated (changes : Changes) (world : Population) : Application :=
  world.entities.toList.foldl (effect.updateIfChanged changes) ⟨world.own, []⟩

end ApplyEffect

/-- How often it has been applied. -/
def Application.times (state : Application) (entity : Nat) (name : String) : Nat :=
  state.applied.count (entity, name)

namespace ApplyEffect

variable (effect : ApplyEffect)

variable {state : Application} {entity : Nat} {names : List String}

variable {name : String}

theorem applyDefault_of_mem (own : name ∈ state.own entity) :
    effect.applyDefault entity state name = state :=
  if_pos own

theorem applyDefault_of_not_mem (notOwn : name ∉ state.own entity) :
    effect.applyDefault entity state name =
      ⟨effect.apply state.own entity name, state.applied ++ [(entity, name)]⟩ :=
  if_neg notOwn

theorem applyDefault_grows (entity : Nat) (state : Application) (name : String) :
    (∀ other, state.own other ⊆ (effect.applyDefault entity state name).own other) ∧
    (∀ other key, state.times other key ≤ (effect.applyDefault entity state name).times other key) ∧
    (∀ other key, other ≠ entity →
      (effect.applyDefault entity state name).times other key = state.times other key) := by
  by_cases own : name ∈ state.own entity
  · rw [effect.applyDefault_of_mem own]
    exact ⟨fun _ => Finset.Subset.refl _, fun _ _ => Nat.le_refl _, fun _ _ _ => rfl⟩
  · rw [effect.applyDefault_of_not_mem own]
    refine ⟨fun other => effect.grows _ _ _ _, ?_, ?_⟩
    · intro other key
      simp only [Application.times, count_append]
      exact Nat.le_add_right _ _
    · intro other key isOther
      have single : List.count (other, key) [(entity, name)] = 0 := by
        apply count_eq_zero_of_not_mem
        intro isEntry
        rw [mem_singleton, Prod.mk.injEq] at isEntry
        exact isOther isEntry.1
      simp only [Application.times, count_append, single, Nat.add_zero]

theorem foldl_grows (entity : Nat) (names : List String) (state : Application) :
    (∀ other, state.own other ⊆ (names.foldl (effect.applyDefault entity) state).own other) ∧
    (∀ other key, state.times other key ≤
      (names.foldl (effect.applyDefault entity) state).times other key) ∧
    (∀ other key, other ≠ entity →
      (names.foldl (effect.applyDefault entity) state).times other key =
        state.times other key) := by
  induction names generalizing state with
  | nil => exact ⟨fun _ => Finset.Subset.refl _, fun _ _ => Nat.le_refl _, fun _ _ _ => rfl⟩
  | cons name names ih =>
    obtain ⟨own, times, frame⟩ := effect.applyDefault_grows entity state name
    obtain ⟨ownRest, timesRest, frameRest⟩ := ih (effect.applyDefault entity state name)
    rw [foldl_cons]
    refine ⟨fun other => (own other).trans (ownRest other), ?_, ?_⟩
    · intro other key
      exact (times other key).trans (timesRest other key)
    · intro other key isOther
      rw [frameRest other key isOther, frame other key isOther]

theorem foldl_of_own (own : ∀ name ∈ names, name ∈ state.own entity) :
    names.foldl (effect.applyDefault entity) state = state := by
  induction names with
  | nil => rfl
  | cons name names ih =>
    rw [foldl_cons, effect.applyDefault_of_mem (own name mem_cons_self)]
    exact ih fun other isRest => own other (mem_cons_of_mem _ isRest)

theorem times_lt_of_not_own (listed : name ∈ names)
    (notOwn : name ∉ (names.foldl (effect.applyDefault entity) state).own entity) :
    state.times entity name <
      (names.foldl (effect.applyDefault entity) state).times entity name := by
  induction names generalizing state with
  | nil => cases listed
  | cons first names ih =>
    rw [foldl_cons] at notOwn ⊢
    have rest := effect.foldl_grows entity names (effect.applyDefault entity state first)
    rcases List.mem_cons.mp listed with rfl | isRest
    · have notOwnBefore : name ∉ state.own entity := by
        intro own
        exact notOwn (rest.1 entity ((effect.applyDefault_grows entity state name).1 entity own))
      have raised : state.times entity name <
          (effect.applyDefault entity state name).times entity name := by
        rw [effect.applyDefault_of_not_mem notOwnBefore]
        simp only [Application.times, count_append, count_singleton_self]
        exact Nat.lt_succ_self _
      exact raised.trans_le (rest.2.1 entity name)
    · exact ((effect.applyDefault_grows entity state first).2.1 entity name).trans_lt
        (ih isRest notOwn)

section

variable (meets : ∃ name ∈ names, name ∉ state.own entity)

include meets

theorem exists_times_lt :
    ∃ name ∈ names, name ∉ state.own entity ∧
      state.times entity name <
        (names.foldl (effect.applyDefault entity) state).times entity name := by
  induction names with
  | nil => simp at meets
  | cons first names ih =>
    rw [foldl_cons]
    by_cases own : first ∈ state.own entity
    · rw [effect.applyDefault_of_mem own]
      obtain ⟨name, listed, notOwn⟩ := meets
      have isRest : name ∈ names := by
        rcases List.mem_cons.mp listed with rfl | isRest
        · exact absurd own notOwn
        · exact isRest
      obtain ⟨met, metRest, metNotOwn, raised⟩ := ih ⟨name, isRest, notOwn⟩
      exact ⟨met, mem_cons_of_mem _ metRest, metNotOwn, raised⟩
    · refine ⟨first, mem_cons_self, own, ?_⟩
      apply Nat.lt_of_lt_of_le _
        ((effect.foldl_grows entity names (effect.applyDefault entity state first)).2.1
          entity first)
      rw [effect.applyDefault_of_not_mem own]
      simp only [Application.times, count_append, count_singleton_self]
      exact Nat.lt_succ_self _

theorem exists_not_own_foldl :
    ∃ name ∈ names, name ∉ (names.foldl (effect.applyDefault entity) state).own entity := by
  induction names generalizing state with
  | nil => simp at meets
  | cons first names ih =>
    rw [foldl_cons]
    by_cases later : ∃ name ∈ names, name ∉ (effect.applyDefault entity state first).own entity
    · obtain ⟨name, isRest, notOwn⟩ := ih later
      exact ⟨name, mem_cons_of_mem _ isRest, notOwn⟩
    · push Not at later
      rw [effect.foldl_of_own later]
      obtain ⟨name, listed, notOwn⟩ := meets
      rcases List.mem_cons.mp listed with rfl | isRest
      · refine ⟨name, mem_cons_self, ?_⟩
        rw [effect.applyDefault_of_not_mem notOwn]
        exact effect.notOwn _ _ _ notOwn
      · -- only the first name can have given the entity this one
        have ownFirst : first ∉ state.own entity := by
          intro own
          rw [effect.applyDefault_of_mem own] at later
          exact notOwn (later name isRest)
        refine ⟨first, mem_cons_self, ?_⟩
        rw [effect.applyDefault_of_not_mem ownFirst]
        exact effect.notOwn _ _ _ ownFirst

end

theorem updateEntity_grows (update : PropertiesUpdate) (state : Application) (entity : Nat) :
    (∀ other, state.own other ⊆ (effect.updateEntity update state entity).own other) ∧
    (∀ other key, other ≠ entity →
      (effect.updateEntity update state entity).times other key = state.times other key) := by
  obtain ⟨own, -, frame⟩ := effect.foldl_grows entity (update.changedProps.sort (· ≤ ·)) state
  obtain ⟨ownAgain, -, frameAgain⟩ := effect.foldl_grows entity (update.changedProps.sort (· ≤ ·))
    (effect.applyAll update.changedProps state entity)
  constructor
  · intro other
    exact (own other).trans (ownAgain other)
  · intro other key isOther
    exact (frameAgain other key isOther).trans (frame other key isOther)

variable {update : PropertiesUpdate}

theorem updateEntity_of_own
    (own : update.changedProps ⊆ state.own entity) :
    effect.updateEntity update state entity = state := by
  have listed : ∀ name ∈ update.changedProps.sort (· ≤ ·), name ∈ state.own entity := by
    intro name isListed
    exact own ((Finset.mem_sort _).mp isListed)
  unfold updateEntity applyAll
  rw [effect.foldl_of_own listed, effect.foldl_of_own listed]

theorem updateEntity_twice
    (lacks : ¬ update.changedProps ⊆ state.own entity) :
    ∃ name ∈ update.changedProps, name ∉ state.own entity ∧
      state.times entity name + 2 ≤
        (effect.updateEntity update state entity).times entity name := by
  have meets : ∃ name ∈ update.changedProps.sort (· ≤ ·), name ∉ state.own entity := by
    obtain ⟨name, changed, notOwn⟩ := Finset.not_subset.mp lacks
    exact ⟨name, (Finset.mem_sort _).mpr changed, notOwn⟩
  obtain ⟨name, listed, notOwn, again⟩ :=
    effect.exists_times_lt (effect.exists_not_own_foldl meets)
  have once := effect.times_lt_of_not_own listed notOwn
  refine ⟨name, (Finset.mem_sort _).mp listed, ?_, ?_⟩
  · intro own
    exact notOwn ((effect.foldl_grows entity _ state).1 entity own)
  · unfold updateEntity applyAll
    omega

theorem foldl_updateIfChanged_grows (changes : Changes) (entries : List (Nat × String))
    (state : Application) :
    (∀ other, state.own other ⊆ (entries.foldl (effect.updateIfChanged changes) state).own other) ∧
    (∀ other key, (∀ entry ∈ entries, entry.1 ≠ other) →
      (entries.foldl (effect.updateIfChanged changes) state).times other key =
        state.times other key) := by
  induction entries generalizing state with
  | nil => exact ⟨fun _ => Finset.Subset.refl _, fun _ _ _ => rfl⟩
  | cons entry entries ih =>
    obtain ⟨ownRest, frameRest⟩ := ih (effect.updateIfChanged changes state entry)
    have step : (∀ other, state.own other ⊆
          (effect.updateIfChanged changes state entry).own other) ∧
        (∀ other key, other ≠ entry.1 →
          (effect.updateIfChanged changes state entry).times other key =
            state.times other key) := by
      unfold updateIfChanged
      split
      · exact effect.updateEntity_grows _ _ _
      · exact ⟨fun _ => Finset.Subset.refl _, fun _ _ _ => rfl⟩
    rw [foldl_cons]
    constructor
    · intro other
      exact (step.1 other).trans (ownRest other)
    · intro other key absent
      rw [frameRest other key fun later isRest => absent later (mem_cons_of_mem _ isRest)]
      exact step.2 other key (absent entry mem_cons_self).symm

theorem foldl_updateIfChanged_of_own {changes : Changes} {entries : List (Nat × String)}
    (own : ∀ entry ∈ entries, ∀ update, changes[entry.2]? = some update →
      update.changedProps ⊆ state.own entry.1) :
    entries.foldl (effect.updateIfChanged changes) state = state := by
  induction entries with
  | nil => rfl
  | cons entry entries ih =>
    have step : effect.updateIfChanged changes state entry = state := by
      unfold updateIfChanged
      split
      case h_1 update found =>
          exact effect.updateEntity_of_own (own entry mem_cons_self update found)
      case h_2 => rfl
    rw [foldl_cons, step]
    exact ih fun later isRest => own later (mem_cons_of_mem _ isRest)

end ApplyEffect

/-- Applied once, but for own values. -/
def Followed (update : PropertiesUpdate) (own : Finset String) (times : String → Nat) : Prop :=
  ∀ name ∈ update.newProps ∪ update.changedProps,
    (name ∉ own → times name = 1) ∧ (name ∈ own → times name = 0)

namespace ApplyEffect

variable (effect : ApplyEffect)

/-- An entity shows the new defaults of its type just if those that it does not show are hidden by
values of its own. -/
theorem typesUpdated_followed_iff (changes : Changes) (world : Population) :
    (∀ (entity : Nat) (type : String) (update : PropertiesUpdate),
      world.entities[entity]? = some type → changes[type]? = some update →
      Followed update (world.own entity) ((effect.typesUpdated changes world).times entity)) ↔
    ∀ (entity : Nat) (type : String) (update : PropertiesUpdate),
      world.entities[entity]? = some type → changes[type]? = some update →
      update.newProps ∪ update.changedProps ⊆ world.own entity := by
  constructor
  · intro followed entity type update present found name relevant
    by_contra notOwn
    have isListed : (entity, type) ∈ world.entities.toList :=
      ExtTreeMap.mem_toList_iff_getElem?_eq_some.mpr present
    obtain ⟨before, after, split⟩ := append_of_mem isListed
    -- each entity has its turn once
    have distinct : world.entities.toList.Pairwise fun entry later => ¬ entry.1 = later.1 := by
      have keys := world.entities.distinct_keys_toList
      apply List.Pairwise.imp _ keys
      intro entry later different same
      exact different (by rw [same]; exact Std.ReflCmp.compare_self)
    rw [split, pairwise_append, pairwise_cons] at distinct
    obtain ⟨-, ⟨notAfter, -⟩, notBefore⟩ := distinct
    have timesBefore : ∀ key, (before.foldl (effect.updateIfChanged changes)
        ⟨world.own, []⟩).times entity key = 0 := by
      intro key
      rw [(effect.foldl_updateIfChanged_grows changes before _).2 entity key
        fun entry isBefore => notBefore entry isBefore (entity, type) mem_cons_self]
      rfl
    have timesAfter : ∀ key, (effect.typesUpdated changes world).times entity key =
        (effect.updateEntity update (before.foldl (effect.updateIfChanged changes)
          ⟨world.own, []⟩) entity).times entity key := by
      intro key
      unfold typesUpdated
      rw [split, foldl_append, foldl_cons,
        (effect.foldl_updateIfChanged_grows changes after _).2 entity key
          fun entry isAfter same => notAfter entry isAfter same.symm]
      simp only [updateIfChanged, found]
    have follows := followed entity type update present found
    by_cases own : update.changedProps ⊆
        (before.foldl (effect.updateIfChanged changes) ⟨world.own, []⟩).own entity
    · have once := (follows name relevant).1 notOwn
      rw [timesAfter, effect.updateEntity_of_own own, timesBefore] at once
      exact Nat.zero_ne_one once
    · obtain ⟨twice, changed, notOwnBefore, times⟩ := effect.updateEntity_twice own
      have notOwnStart : twice ∉ world.own entity := by
        intro ownStart
        exact notOwnBefore ((effect.foldl_updateIfChanged_grows changes before _).1 entity ownStart)
      have once := (follows twice (Finset.mem_union_right _ changed)).1 notOwnStart
      rw [timesAfter] at once
      rw [timesBefore] at times
      omega
  · intro owned entity type update present found name relevant
    have nothing : effect.typesUpdated changes world = ⟨world.own, []⟩ := by
      apply effect.foldl_updateIfChanged_of_own
      intro entry isListed other foundOther
      have presentOther := ExtTreeMap.mem_toList_iff_getElem?_eq_some.mp isListed
      exact Finset.union_subset_right (owned entry.1 entry.2 other presentOther foundOther)
    constructor
    · intro notOwn
      exact absurd (owned entity type update present found relevant) notOwn
    · intro _
      rw [nothing]
      rfl

end ApplyEffect

/-- Applying does not touch other properties. -/
def ApplyEffect.plain : ApplyEffect where
  apply own _ _ := own
  grows _ _ _ _ := Finset.Subset.refl _
  notOwn _ _ _ notOwn := notOwn

/-- A type gets new values. -/
def ripening : PropertiesUpdate where
  newProps := {"smell"}
  changedProps := {"mass"}
  removedProps := ∅

def orchard : Population where
  entities := (∅ : ExtTreeMap Nat String).insert 7 "apple"
  own _ := ∅

def ripened : Application :=
  ApplyEffect.plain.typesUpdated ((∅ : Changes).insert "apple" ripening) orchard

theorem ripened_applied : ripened.applied = [(7, "mass"), (7, "mass")] := by
  have entries : orchard.entities.toList = [(7, "apple")] := by decide
  have names : ripening.changedProps.sort (· ≤ ·) = ["mass"] := Finset.sort_singleton _ _
  unfold ripened ApplyEffect.typesUpdated
  rw [entries]
  simp [ApplyEffect.updateIfChanged, ApplyEffect.updateEntity, ApplyEffect.applyAll, names,
    ApplyEffect.applyDefault, ApplyEffect.plain, orchard]

/-- Changed is applied twice, new never. -/
theorem ripened_not_followed :
    orchard.entities[7]? = some "apple" ∧ "mass" ∉ orchard.own 7 ∧ "smell" ∉ orchard.own 7 ∧
    ripened.times 7 "mass" = 2 ∧ ripened.times 7 "smell" = 0 ∧
    ¬ Followed ripening (orchard.own 7) (ripened.times 7) := by
  have mass : ripened.times 7 "mass" = 2 := by
    rw [Application.times, ripened_applied]
    decide
  have smell : ripened.times 7 "smell" = 0 := by
    rw [Application.times, ripened_applied]
    decide
  refine ⟨by decide, Finset.notMem_empty _, Finset.notMem_empty _, mass, smell, ?_⟩
  intro followed
  have isNew : "smell" ∈ ripening.newProps ∪ ripening.changedProps :=
    Finset.mem_union_left _ (Finset.mem_singleton_self _)
  have once := (followed "smell" isNew).1 (Finset.notMem_empty _)
  rw [smell] at once
  exact Nat.zero_ne_one once

end Cyphesis.Ruleset
