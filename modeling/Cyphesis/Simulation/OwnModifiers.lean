import Cyphesis.Rules.ModifierViews
import Cyphesis.Simulation.ModifyProperty

/-!
# Modifiers an entity has from one source

The modifiers that one entity, `affecting`, has on an entity; their addresses are `own`.
-/

namespace Cyphesis.Simulation

open Cyphesis.Atlas List
open Cyphesis.Common
open Cyphesis.Foundation
open Cyphesis.Rules
open LocatedEntity

namespace ModifiedParent

variable {entity : LocatedEntity} {affecting : Nat} {own : Nat → Prop} {pair : String × Nat}

/-- Only what one entity has recorded has changed. -/
structure Recorded (affecting : Nat) (pairs : String × Nat → Prop)
    (before after : LocatedEntity) : Prop where
  host : SameHost before after
  others : ∀ other ≠ affecting, after.modifiersFrom other = before.modifiersFrom other
  once : (after.modifiersFrom affecting).Nodup
  mem : ∀ pair, pair ∈ after.modifiersFrom affecting ↔ pairs pair

theorem recorded_removeRecorded (once : (entity.modifiersFrom affecting).Nodup)
    (isRecorded : pair ∈ entity.modifiersFrom affecting)
    (unshared : ∀ other ≠ affecting, pair ∉ entity.modifiersFrom other) :
    Recorded affecting (fun other => other ∈ entity.modifiersFrom affecting ∧ other ≠ pair)
      entity (removeRecorded entity pair) where
  host := sameHost_removeModifier entity _ _
  others other different := by
    unfold removeRecorded
    rw [@modifiersFrom_removeModifier entity pair.1 affecting _ isRecorded unshared,
      if_neg different]
  once := by
    unfold removeRecorded
    rw [@modifiersFrom_removeModifier entity pair.1 affecting _ isRecorded unshared, if_pos rfl]
    exact once.erase _
  mem other := by
    unfold removeRecorded
    rw [@modifiersFrom_removeModifier entity pair.1 affecting _ isRecorded unshared, if_pos rfl,
      once.mem_erase_iff]
    exact and_comm

/-- The entity takes a modifier. -/
def Accepts (entity : LocatedEntity) (modifier : String × ModifierRef) : Prop :=
  entity.hasFlags entityModifiersNotAllowed = false ∧
    PropertyUtil.isValidName modifier.1 = true

/-- Records for `affecting` agree with lists. -/
structure Owns (own : Nat → Prop) (affecting : Nat) (entity : LocatedEntity) : Prop where
  once : (entity.modifiersFrom affecting).Nodup
  recorded : ∀ pair ∈ entity.modifiersFrom affecting,
    own pair.2 ∧ PropertyUtil.isValidName pair.1 = true ∧
      entity.hasFlags entityModifiersNotAllowed = false
  others : ∀ other ≠ affecting, ∀ pair ∈ entity.modifiersFrom other, ¬own pair.2
  stored : ∀ name, ∀ entry ∈ entity.modifiersOf name, entry.2 = affecting →
    (name, entry.1.address) ∈ entity.modifiersFrom affecting
  foreign : ∀ name, ∀ entry ∈ entity.modifiersOf name, entry.2 ≠ affecting → ¬own entry.1.address
  apart : ∀ name, ((entity.modifiersOf name).filter (·.2 = affecting)).Pairwise
    fun first second => first.1.address ≠ second.1.address

section

variable (owns : Owns own affecting entity)

include owns

theorem Owns.unshared : entity.Unshared affecting := by
  intro pair isRecorded other different isShared
  exact owns.others other different pair isShared (owns.recorded pair isRecorded).1

theorem Owns.of_same {after : LocatedEntity}
    (records : after.activeModifiers = entity.activeModifiers)
    (lists : ∀ name, after.modifiersOf name = entity.modifiersOf name)
    (flag : after.hasFlags entityModifiersNotAllowed =
      entity.hasFlags entityModifiersNotAllowed) : Owns own affecting after := by
  have same : ∀ other, after.modifiersFrom other = entity.modifiersFrom other := by
    intro other
    rw [modifiersFrom, modifiersFrom, records]
  constructor
  · rw [same]
    exact owns.once
  · rw [same, flag]
    exact owns.recorded
  · intro other different
    rw [same]
    exact owns.others other different
  · intro name
    rw [same, lists]
    exact owns.stored name
  · intro name
    rw [lists]
    exact owns.foreign name
  · intro name
    rw [lists]
    exact owns.apart name

theorem Owns.setAttr (name : String) (modifier : Option Modifier) :
    Owns own affecting (entity.setAttr name modifier) :=
  owns.of_same (setAttr_activeModifiers entity name modifier)
    (fun other => modifiersOf_setAttr entity name other modifier)
    (setAttr_hasFlags entity name modifier (by decide))

end

theorem addModifier_of_not_accepts {modifier : String × ModifierRef}
    (refused : ¬Accepts entity modifier) (holder : Nat) :
    entity.addModifier modifier.1 modifier.2 holder = entity := by
  unfold addModifier
  split
  · rfl
  · rename_i allowed
    rw [if_neg]
    intro valid
    exact refused ⟨Bool.eq_false_iff.mpr allowed, valid⟩

variable {name : String}

variable {modifier : String × ModifierRef} {entry : ModifierRef × Nat}

theorem mem_modifiersOf_addModifier
    (accepts : Accepts entity modifier) (holder : Nat)
    (isEntry : entry ∈ (entity.addModifier modifier.1 modifier.2 holder).modifiersOf name) :
    entry ∈ entity.modifiersOf name ∨ name = modifier.1 ∧ entry = (modifier.2, holder) := by
  rw [modifiersOf_addModifier accepts.1 accepts.2] at isEntry
  split at isEntry
  · rename_i isName
    rw [isName.1]
    rcases List.mem_append.mp isEntry with isOld | isNew
    · exact .inl isOld
    · exact .inr ⟨rfl, List.mem_singleton.mp isNew⟩
  · exact .inl isEntry

theorem Owns.added (owns : Owns own affecting entity)
    (isOwn : own modifier.2.address)
    (isNew : recordedPair modifier ∉ entity.modifiersFrom affecting) :
    Owns own affecting (addFrom affecting entity modifier) := by
  by_cases accepts : Accepts entity modifier
  · have host := sameHost_addModifier entity modifier.1 modifier.2 affecting
    have records :=
        @modifiersFrom_addModifier entity modifier.1 modifier.2 accepts.1 accepts.2 affecting
    unfold addFrom
    constructor
    · rw [records, if_pos rfl]
      exact owns.once.insert
    · intro pair isRecorded
      rw [records, if_pos rfl] at isRecorded
      rw [host.allowed]
      rcases List.mem_insert_iff.mp isRecorded with rfl | isOld
      · exact ⟨isOwn, accepts.2, accepts.1⟩
      · exact owns.recorded pair isOld
    · intro other different
      rw [records, if_neg different]
      exact owns.others other different
    · intro name entry isEntry isSelf
      rw [records, if_pos rfl, mem_insert_iff]
      rcases mem_modifiersOf_addModifier accepts affecting isEntry with isOld | ⟨rfl, rfl⟩
      · exact .inr (owns.stored name entry isOld isSelf)
      · exact .inl rfl
    · intro name entry isEntry notSelf
      rcases mem_modifiersOf_addModifier accepts affecting isEntry with isOld | ⟨rfl, rfl⟩
      · exact owns.foreign name entry isOld notSelf
      · exact absurd rfl notSelf
    · intro name
      rw [modifiersOf_addModifier accepts.1 accepts.2]
      split
      · rename_i isName
        rw [filter_append, pairwise_append]
        refine ⟨owns.apart modifier.1, by simp, ?_⟩
        intro entry isEntry other isOther same
        rcases List.mem_filter.mp isEntry with ⟨isOld, isSelf⟩
        have isAdded : other = (modifier.2, affecting) :=
          List.mem_singleton.mp (mem_of_mem_filter isOther)
        have isRecorded := owns.stored modifier.1 entry isOld (by simpa using isSelf)
        rw [same, isAdded] at isRecorded
        exact isNew isRecorded
      · exact owns.apart name
  · rw [addFrom, addModifier_of_not_accepts accepts]
    exact owns

theorem Owns.allAdded (owns : Owns own affecting entity) (modifiers : List (String × ModifierRef))
    (distinct : (modifiers.map recordedPair).Nodup)
    (isOwn : ∀ modifier ∈ modifiers, own modifier.2.address)
    (areNew : ∀ modifier ∈ modifiers, recordedPair modifier ∉ entity.modifiersFrom affecting) :
    Owns own affecting (modifiers.foldl (addFrom affecting) entity) ∧
      ∀ pair, pair ∈ (modifiers.foldl (addFrom affecting) entity).modifiersFrom affecting ↔
        pair ∈ entity.modifiersFrom affecting ∨
          ∃ modifier ∈ modifiers, Accepts entity modifier ∧ recordedPair modifier = pair := by
  induction modifiers generalizing entity with
  | nil => exact ⟨owns, by simp⟩
  | cons modifier rest ih =>
    rcases List.nodup_cons.mp distinct with ⟨notLater, distinctRest⟩
    have added := owns.added (isOwn modifier mem_cons_self) (areNew modifier mem_cons_self)
    have host := sameHost_addModifier entity modifier.1 modifier.2 affecting
    have records : ∀ pair, pair ∈ (addFrom affecting entity modifier).modifiersFrom affecting ↔
        pair ∈ entity.modifiersFrom affecting ∨
          Accepts entity modifier ∧ recordedPair modifier = pair := by
      intro pair
      by_cases accepts : Accepts entity modifier
      · rw [addFrom, modifiersFrom_addModifier accepts.1 accepts.2, if_pos rfl, mem_insert_iff]
        simp only [accepts, true_and]
        exact or_comm.trans (or_congr_right eq_comm)
      · rw [addFrom, addModifier_of_not_accepts accepts]
        simp [accepts]
    have stillNew : ∀ other ∈ rest, recordedPair other ∉
        (addFrom affecting entity modifier).modifiersFrom affecting := by
      intro other isRest isRecorded
      rcases (records _).mp isRecorded with isOld | ⟨-, same⟩
      · exact areNew other (mem_cons_of_mem modifier isRest) isOld
      · exact notLater (List.mem_map.mpr ⟨other, isRest, same.symm⟩)
    rcases ih added distinctRest
      (fun other isRest => isOwn other (mem_cons_of_mem modifier isRest)) stillNew with
      ⟨ownsAfter, recordsAfter⟩
    refine ⟨ownsAfter, ?_⟩
    intro pair
    have sameAccepts : ∀ other, Accepts (addFrom affecting entity modifier) other ↔
        Accepts entity other := by
      intro other
      unfold Accepts addFrom
      rw [host.allowed]
    rw [foldl_cons, recordsAfter, records, or_assoc]
    simp only [sameAccepts, mem_cons, exists_eq_or_imp]

theorem mem_modifiersOf_removeRecorded
    (isEntry : entry ∈ (removeRecorded entity pair).modifiersOf name) :
    entry ∈ entity.modifiersOf name := by
  unfold removeRecorded at isEntry
  rw [modifiersOf_removeModifier] at isEntry
  split at isEntry
  · rename_i same
    rw [same]
    exact mem_of_mem_eraseP isEntry
  · exact isEntry

theorem address_ne_of_mem_eraseP {entries : List (ModifierRef × Nat)} {address : Nat}
    (apart : (entries.filter (·.2 = affecting)).Pairwise
      fun first second => first.1.address ≠ second.1.address)
    (only : ∀ entry ∈ entries, entry.1.address = address → entry.2 = affecting)
    (isLeft : entry ∈ entries.eraseP (·.1.address == address)) :
    entry.1.address ≠ address := by
  induction entries with
  | nil => cases isLeft
  | cons first rest ih =>
    have onlyRest : ∀ other ∈ rest, other.1.address = address → other.2 = affecting :=
      fun other isRest => only other (mem_cons_of_mem first isRest)
    by_cases isFirst : first.1.address = address
    · rw [eraseP_cons_of_pos (by simpa using isFirst)] at isLeft
      intro isAddress
      have isOwn := only first mem_cons_self isFirst
      rw [filter_cons_of_pos (by simpa using isOwn), pairwise_cons] at apart
      have isKept : entry ∈ rest.filter (·.2 = affecting) :=
        List.mem_filter.mpr ⟨isLeft, by simpa using onlyRest entry isLeft isAddress⟩
      exact apart.1 entry isKept (isFirst.trans isAddress.symm)
    · rw [eraseP_cons_of_neg (by simpa using isFirst)] at isLeft
      rcases List.mem_cons.mp isLeft with rfl | isLeft
      · exact isFirst
      · exact ih (apart.sublist ((sublist_cons_self first rest).filter _)) onlyRest isLeft

theorem Owns.removed (owns : Owns own affecting entity)
    (isRecorded : pair ∈ entity.modifiersFrom affecting) :
      Owns own affecting (removeRecorded entity pair) := by
  have removed := recorded_removeRecorded owns.once isRecorded (owns.unshared pair isRecorded)
  have isOwn := (owns.recorded pair isRecorded).1
  constructor
  · exact removed.once
  · intro other isOther
    rw [removed.host.allowed]
    exact owns.recorded other ((removed.mem other).mp isOther).1
  · intro other different
    rw [removed.others other different]
    exact owns.others other different
  · intro name entry isEntry isSelf
    rw [removed.mem]
    refine ⟨owns.stored name entry (mem_modifiersOf_removeRecorded isEntry) isSelf, ?_⟩
    rintro rfl
    unfold removeRecorded at isEntry
    rw [modifiersOf_removeModifier, if_pos rfl] at isEntry
    apply address_ne_of_mem_eraseP (owns.apart name) _ isEntry rfl
    intro other isOther same
    by_contra notOwn
    exact owns.foreign name other isOther notOwn (same ▸ isOwn)
  · intro name entry isEntry
    exact owns.foreign name entry (mem_modifiersOf_removeRecorded isEntry)
  · intro name
    unfold removeRecorded
    rw [modifiersOf_removeModifier]
    split
    · exact (owns.apart pair.1).sublist (List.eraseP_sublist.filter _)
    · exact owns.apart name

theorem Owns.recorded_rest (owns : Owns own affecting entity) {rest : List (String × Nat)}
    (distinct : (pair :: rest).Nodup)
    (areRecorded : ∀ other ∈ pair :: rest, other ∈ entity.modifiersFrom affecting) :
    ∀ other ∈ rest, other ∈ (removeRecorded entity pair).modifiersFrom affecting := by
  intro other isRest
  have isRecorded := areRecorded pair mem_cons_self
  rw [(recorded_removeRecorded owns.once isRecorded (owns.unshared pair isRecorded)).mem]
  refine ⟨areRecorded other (mem_cons_of_mem pair isRest), ?_⟩
  rintro rfl
  exact (List.nodup_cons.mp distinct).1 isRest

theorem Owns.filter_removed (owns : Owns own affecting entity)
    (isRecorded : pair ∈ entity.modifiersFrom affecting) (name : String) :
    ((removeRecorded entity pair).modifiersOf name).filter (·.2 ≠ affecting) =
      (entity.modifiersOf name).filter (·.2 ≠ affecting) := by
  have isOwn := (owns.recorded pair isRecorded).1
  have foreign := owns.foreign pair.1
  unfold removeRecorded
  rw [modifiersOf_removeModifier]
  split
  · rename_i same
    rw [same]
    generalize entity.modifiersOf pair.1 = entries at foreign
    induction entries with
    | nil => rfl
    | cons first rest ih =>
      have foreignRest := fun other isRest => foreign other (mem_cons_of_mem first isRest)
      by_cases isFirst : first.1.address = pair.2
      · have notForeign : ¬first.2 ≠ affecting :=
          fun notOwn => foreign first mem_cons_self notOwn (isFirst ▸ isOwn)
        rw [eraseP_cons_of_pos (by simpa using isFirst),
          filter_cons_of_neg (by simpa using notForeign)]
      · rw [eraseP_cons_of_neg (by simpa using isFirst), filter_cons, filter_cons, ih foreignRest]
  · rfl

/-- A property has the value of its modifiers. -/
def Leaves (name : String) (base : Element) (entity : LocatedEntity) : Prop :=
  ∃ entry, entity.properties[name]? = some entry ∧ entry.baseValue = base ∧
    entity.valueOf name = applyModifiers entry.modifiers base base

theorem Leaves.of_properties {base : Element} {after : LocatedEntity}
    (leaves : Leaves name base entity) (same : after.properties[name]? = entity.properties[name]?) :
    Leaves name base after := by
  rcases leaves with ⟨entry, found, isBase, value⟩
  refine ⟨entry, same.trans found, isBase, ?_⟩
  rw [← value, valueOf, valueOf, getAttr, getAttr, same, found]

theorem leaves_removeModifier {entry : ModifiableProperty} {modifier : ModifierRef}
    (found : entity.properties[name]? = some entry) (valid : PropertyUtil.isValidName name = true)
    (active : entry.modifiers.any (·.1.address == modifier.address) = true) :
    Leaves name entry.baseValue (entity.removeModifier name modifier) := by
  have forgotten : (entity.forgetModifier name modifier.address).properties[name]? =
      some entry := by
    rw [forgetModifier_properties]
    exact found
  unfold removeModifier
  simp only [forgotten, active, if_true]
  generalize isChanged : { entity.forgetModifier name modifier.address with
    properties := (entity.forgetModifier name modifier.address).properties.insert name
      { entry with modifiers := entry.modifiers.eraseP (·.1.address == modifier.address) } } =
    changed
  have written : changed.properties[name]? =
      some { entry with modifiers :=
        entry.modifiers.eraseP (·.1.address == modifier.address) } := by
    rw [← isChanged]
    exact Std.TreeMap.getElem?_insert_self
  rw [setAttrValue_of_isValidName _ _ valid]
  have settled := setAttr_getElem?_self changed (some (.createModifier .default entry.baseValue))
    valid
  rcases settledEntry_default changed name entry.baseValue with ⟨property, isProperty, value, -⟩
  refine ⟨_, settled, ?_, ?_⟩
  · simp only [settledEntry, written, newValue, Modifier.createModifier]
    split
    · rfl
    · rfl
  · rw [settledEntry_modifiers, ← value, valueOf, getAttr, enqueueUpdateOp_properties, settled]
    simp [isProperty]

theorem properties_removeRecorded
    (absent : ¬(pair.1 = name ∧ ∃ entry ∈ entity.modifiersOf name, entry.1.address = pair.2))
    (valid : PropertyUtil.isValidName pair.1 = true) :
    (removeRecorded entity pair).properties[name]? = entity.properties[name]? := by
  by_cases same : pair.1 = name
  · unfold removeRecorded removeModifier
    dsimp only
    rw [forgetModifier_properties]
    cases found : entity.properties[pair.1]? with
    | none => simp
    | some entry =>
      have inactive : entry.modifiers.any (·.1.address == pair.2) = false := by
        rw [any_eq_false]
        intro other isOther isAddress
        rw [same] at found
        refine absent ⟨same, other, ?_, by simpa using isAddress⟩
        rw [modifiersOf_of_getElem? found]
        exact isOther
      simp [inactive]
  · exact (SameProperty.removeModifier entity same valid _).entry

section

variable (owns : Owns own affecting entity)

include owns

variable (pairs : List (String × Nat))

section

variable (distinct : pairs.Nodup)
  (areRecorded : ∀ pair ∈ pairs, pair ∈ entity.modifiersFrom affecting)

include distinct areRecorded

/-- Other modifiers and the base value are left. -/
theorem Owns.foldl_leaves
    {entry : ModifiableProperty} (found : entity.properties[name]? = some entry)
    (touched : Leaves name entry.baseValue entity ∨
      ∃ modifier ∈ entry.modifiers, (name, modifier.1.address) ∈ pairs) :
    Leaves name entry.baseValue (pairs.foldl removeRecorded entity) := by
  induction pairs generalizing entity entry with
  | nil =>
    rcases touched with leaves | ⟨modifier, -, isPair⟩
    · exact leaves
    · cases isPair
  | cons pair rest ih =>
    have distinctRest := (List.nodup_cons.mp distinct).2
    have isRecorded := areRecorded pair mem_cons_self
    have valid := (owns.recorded pair isRecorded).2.1
    have ownsAfter := owns.removed isRecorded
    have recordedAfter := owns.recorded_rest distinct areRecorded
    rw [foldl_cons]
    by_cases active : pair.1 = name ∧ ∃ modifier ∈ entry.modifiers, modifier.1.address = pair.2
    · rcases active with ⟨rfl, modifier, isModifier, isAddress⟩
      have isActive : entry.modifiers.any (·.1.address == pair.2) = true :=
        List.any_eq_true.mpr ⟨modifier, isModifier, by simpa using isAddress⟩
      have leaves := @leaves_removeModifier entity pair.1 entry
        ⟨pair.2, .createModifier .default .none⟩ found valid isActive
      rcases leaves with ⟨after, foundAfter, isBase, value⟩
      rw [← isBase]
      apply ih ownsAfter distinctRest recordedAfter foundAfter
      refine .inl ⟨after, foundAfter, rfl, ?_⟩
      rw [isBase]
      exact value
    · have same := @properties_removeRecorded entity pair name (by
        rw [modifiersOf_of_getElem? found]
        exact active) valid
      apply ih ownsAfter distinctRest recordedAfter (same.trans found)
      rcases touched with leaves | ⟨modifier, isModifier, isPair⟩
      · exact .inl (leaves.of_properties same)
      · right
        refine ⟨modifier, isModifier, ?_⟩
        rcases List.mem_cons.mp isPair with rfl | isRest
        · exact absurd ⟨rfl, modifier, isModifier, rfl⟩ active
        · exact isRest

theorem Owns.allRemoved :
    Owns own affecting (pairs.foldl removeRecorded entity) ∧
      ∀ name, ((pairs.foldl removeRecorded entity).modifiersOf name).filter (·.2 ≠ affecting) =
        (entity.modifiersOf name).filter (·.2 ≠ affecting) := by
  induction pairs generalizing entity with
  | nil => exact ⟨owns, fun _ => rfl⟩
  | cons pair rest ih =>
    have distinctRest := (List.nodup_cons.mp distinct).2
    have isRecorded := areRecorded pair mem_cons_self
    have recordedAfter := owns.recorded_rest distinct areRecorded
    rcases ih (owns.removed isRecorded) distinctRest recordedAfter with
      ⟨ownsAfter, lists⟩
    exact ⟨ownsAfter, fun name => (lists name).trans (owns.filter_removed isRecorded name)⟩

end

theorem Owns.mem_allRemoved {pairs : List (String × Nat)} (distinct : pairs.Nodup)
    (areRecorded : ∀ pair ∈ pairs, pair ∈ entity.modifiersFrom affecting) (pair : String × Nat) :
    pair ∈ (pairs.foldl removeRecorded entity).modifiersFrom affecting ↔
      pair ∈ entity.modifiersFrom affecting ∧ pair ∉ pairs := by
  induction pairs generalizing entity with
  | nil => simp
  | cons first rest ih =>
    have isRecorded := areRecorded first mem_cons_self
    have removed := recorded_removeRecorded owns.once isRecorded (owns.unshared first isRecorded)
    rw [foldl_cons, ih (owns.removed isRecorded) (List.nodup_cons.mp distinct).2
      (owns.recorded_rest distinct areRecorded), removed.mem, mem_cons, not_or, and_assoc]

variable {activated : List (String × ModifierRef)}

/-- `checkIfActive` keeps what the entity takes. -/
theorem Owns.settled
    (distinct : (activated.map recordedPair).Nodup)
    (isOwn : ∀ modifier ∈ activated, own modifier.2.address) :
    Owns own affecting (settle entity affecting activated) ∧
      ∀ pair, pair ∈ (settle entity affecting activated).modifiersFrom affecting ↔
        ∃ modifier ∈ activated, Accepts entity modifier ∧ recordedPair modifier = pair := by
  unfold settle
  cases present : entity.activeModifiers[affecting]? with
  | none =>
    have nothing : entity.modifiersFrom affecting = [] := by simp [modifiersFrom, present]
    have areNew : ∀ modifier ∈ activated,
        recordedPair modifier ∉ entity.modifiersFrom affecting := by
      intro modifier _
      rw [nothing]
      exact not_mem_nil
    rcases owns.allAdded activated distinct isOwn areNew with ⟨ownsAfter, records⟩
    refine ⟨ownsAfter, fun pair => (records pair).trans ?_⟩
    rw [nothing]
    simp
  | some modifiers =>
    have isRecorded : entity.modifiersFrom affecting = modifiers := by
      simp [modifiersFrom, present]
    dsimp only
    generalize isNew : activated.filter
      (fun modifier => !modifiers.contains (recordedPair modifier)) = added
    generalize isOld : modifiers.filter
      (fun pair => !(activated.map recordedPair).contains pair) = removed
    have memAdded : ∀ modifier, modifier ∈ added ↔
        modifier ∈ activated ∧ recordedPair modifier ∉ modifiers := by
      intro modifier
      rw [← isNew, mem_filter]
      simp
    have memRemoved : ∀ pair, pair ∈ removed ↔
        pair ∈ modifiers ∧ pair ∉ activated.map recordedPair := by
      intro pair
      rw [← isOld, mem_filter]
      simp
    have distinctAdded : (added.map recordedPair).Nodup := by
      rw [← isNew]
      exact distinct.sublist (List.filter_sublist.map _)
    have distinctRemoved : removed.Nodup := by
      rw [← isOld]
      exact (isRecorded ▸ owns.once).filter _
    rcases owns.allAdded added distinctAdded
      (fun modifier isAdded => isOwn modifier ((memAdded modifier).mp isAdded).1)
      (fun modifier isAdded => isRecorded ▸ ((memAdded modifier).mp isAdded).2) with
      ⟨ownsAdded, recordsAdded⟩
    have areRecorded : ∀ pair ∈ removed,
        pair ∈ (added.foldl (addFrom affecting) entity).modifiersFrom affecting := by
      intro pair isRemoved
      rw [recordsAdded, isRecorded]
      exact .inl ((memRemoved pair).mp isRemoved).1
    refine ⟨(ownsAdded.allRemoved removed distinctRemoved areRecorded).1, ?_⟩
    intro pair
    rw [ownsAdded.mem_allRemoved distinctRemoved areRecorded, recordsAdded, isRecorded, memRemoved]
    constructor
    · rintro ⟨isOldPair | ⟨modifier, isAdded, accepts, same⟩, notRemoved⟩
      · have isActivated : pair ∈ activated.map recordedPair := by
          by_contra notActivated
          exact notRemoved ⟨isOldPair, notActivated⟩
        rcases List.mem_map.mp isActivated with ⟨modifier, isModifier, rfl⟩
        have recorded := owns.recorded _ (isRecorded ▸ isOldPair)
        exact ⟨modifier, isModifier, ⟨recorded.2.2, recorded.2.1⟩, rfl⟩
      · exact ⟨modifier, ((memAdded modifier).mp isAdded).1, accepts, same⟩
    · rintro ⟨modifier, isActivated, accepts, rfl⟩
      refine ⟨?_, fun removed => removed.2 (mem_map_of_mem isActivated)⟩
      by_cases isOldPair : recordedPair modifier ∈ modifiers
      · exact .inl isOldPair
      · exact .inr ⟨modifier, (memAdded modifier).mpr ⟨isActivated, isOldPair⟩, accepts, rfl⟩

theorem Owns.settle_eq_clear
    (refused : ∀ modifier ∈ activated, ¬Accepts entity modifier) :
    settle entity affecting activated = clear entity affecting := by
  have noneAdded : ∀ modifiers ⊆ activated,
      modifiers.foldl (addFrom affecting) entity = entity := by
    intro modifiers isPart
    induction modifiers with
    | nil => rfl
    | cons modifier rest ih =>
      rw [foldl_cons, addFrom, addModifier_of_not_accepts (refused modifier (isPart mem_cons_self))]
      exact ih fun other isRest => isPart (mem_cons_of_mem modifier isRest)
  unfold settle clear modifiersFrom
  cases present : entity.activeModifiers[affecting]? with
  | none => exact noneAdded activated (List.Subset.refl _)
  | some modifiers =>
    have isRecorded : entity.modifiersFrom affecting = modifiers := by
      simp [modifiersFrom, present]
    have allLeft : modifiers.filter
        (fun pair => !(activated.map recordedPair).contains pair) = modifiers := by
      apply List.filter_eq_self.mpr
      intro pair isPair
      have recorded := owns.recorded pair (isRecorded ▸ isPair)
      have notActivated : pair ∉ activated.map recordedPair := by
        intro isActivated
        rcases List.mem_map.mp isActivated with ⟨modifier, isModifier, rfl⟩
        exact refused modifier isModifier ⟨recorded.2.2, recorded.2.1⟩
      simpa using notActivated
    dsimp only
    rw [noneAdded _ (filter_subset_self _), allLeft]
    rfl

end

/-- Nothing recorded; values of others. -/
structure Cleared (affecting : Nat) (before after : LocatedEntity) : Prop where
  recorded : after.modifiersFrom affecting = []
  lists : ∀ name, after.modifiersOf name = (before.modifiersOf name).filter (·.2 ≠ affecting)
  values : ∀ name entry, before.properties[name]? = some entry →
    (∃ modifier ∈ entry.modifiers, modifier.2 = affecting) →
      after.valueOf name =
        applyModifiers (entry.modifiers.filter (·.2 ≠ affecting)) entry.baseValue entry.baseValue

theorem Owns.cleared (owns : Owns own affecting entity) :
    Owns own affecting (clear entity affecting) ∧
      Cleared affecting entity (clear entity affecting) := by
  unfold clear
  have all : ∀ pair ∈ entity.modifiersFrom affecting, pair ∈ entity.modifiersFrom affecting :=
    fun _ isRecorded => isRecorded
  rcases owns.allRemoved _ owns.once all with ⟨ownsAfter, lists⟩
  have nothing : ((entity.modifiersFrom affecting).foldl removeRecorded entity).modifiersFrom
      affecting = [] := by
    apply List.eq_nil_iff_forall_not_mem.mpr
    intro pair isRecorded
    exact absurd ((owns.mem_allRemoved owns.once all pair).mp isRecorded) (by simp)
  have listsAfter : ∀ name,
      ((entity.modifiersFrom affecting).foldl removeRecorded entity).modifiersOf name =
        (entity.modifiersOf name).filter (·.2 ≠ affecting) := by
    intro name
    rw [← lists name]
    apply (List.filter_eq_self.mpr _).symm
    intro modifier isModifier
    have notOwn : modifier.2 ≠ affecting := by
      intro isOwn
      have isRecorded := ownsAfter.stored name modifier isModifier isOwn
      rw [nothing] at isRecorded
      cases isRecorded
    simpa using notOwn
  refine ⟨ownsAfter, nothing, listsAfter, ?_⟩
  rintro name entry found ⟨modifier, isModifier, isOwn⟩
  have isRecorded : (name, modifier.1.address) ∈ entity.modifiersFrom affecting := by
    apply owns.stored name modifier _ isOwn
    rw [modifiersOf_of_getElem? found]
    exact isModifier
  rcases owns.foldl_leaves _ owns.once all found (.inr ⟨modifier, isModifier, isRecorded⟩) with
    ⟨after, foundAfter, -, value⟩
  rw [value, ← modifiersOf_of_getElem? foundAfter, listsAfter, modifiersOf_of_getElem? found]

end ModifiedParent

end Cyphesis.Simulation
