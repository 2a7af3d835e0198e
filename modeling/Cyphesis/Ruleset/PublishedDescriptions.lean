import Cyphesis.Ruleset.Batch
import Cyphesis.Ruleset.InheritedAttributes

/-!
# Who sees which properties of a type

The public description of a type should list the public default properties and no others, and the
protected one no private property.
-/

namespace Cyphesis.Ruleset

open Std (ExtTreeMap)
open Cyphesis.Atlas Option Std.ExtTreeMap
open Cyphesis.Common
open Cyphesis.Foundation

namespace TypeNode

variable (node : TypeNode)

/-- The name or the flags of a property conceal it from some readers. -/
def Conceals (mask : BitVec 32) (name : String) : Prop :=
  PropertyUtil.flagsForPropertyName name &&& mask ≠ 0 ∨
    ∃ property, node.defaults[name]? = some property ∧ property.hasFlags mask = true

/-- The descriptions show what they should. -/
structure RespectsVisibility (node : TypeNode) : Prop where
  publicView : ∀ name, name ∈ (node.description .publicView).propertyMap →
    ¬ node.Conceals propFlagVisibilityNonPublic name
  protectedView : ∀ name, name ∈ (node.description .protectedView).propertyMap →
    ¬ node.Conceals propFlagVisibilityPrivate name
  complete : ∀ (name : String) property, node.defaults[name]? = some property →
    ¬ node.Conceals propFlagVisibilityNonPublic name →
    name ∈ (node.description .publicView).propertyMap ∧
      name ∈ (node.description .protectedView).propertyMap

/-- What a type holds for a name. -/
def slot (name : String) : Slot :=
  { default := node.defaults[name]?
    inPrivate := node.privateDescription.propertyMap[name]?
    inProtected := node.protectedDescription.propertyMap[name]?
    inPublic := node.publicDescription.propertyMap[name]?
    isNew := False
    isChanged := False }

/-- Listed where name and flags allow it. -/
structure Slot.Discreet (name : String) (slot : Slot) : Prop where
  flagged : ∀ property, slot.default = some property → ∀ mask,
    PropertyUtil.flagsForPropertyName name &&& mask ≠ 0 → property.hasFlags mask = true
  inPrivate : ∀ value, slot.inPrivate = some value → ∃ property, slot.default = some property
  inProtected : ∀ value, slot.inProtected = some value →
    ∃ property, slot.default = some property ∧ property.hasFlags propFlagVisibilityPrivate = false
  inPublic : ∀ value, slot.inPublic = some value →
    ∃ property, slot.default = some property ∧
      property.hasFlags propFlagVisibilityNonPublic = false

/-- Public defaults are listed for all. -/
def Slot.Complete (slot : Slot) : Prop :=
  ∀ property, slot.default = some property →
    property.hasFlags propFlagVisibilityNonPublic = false →
    slot.inPrivate.isSome = true ∧ slot.inProtected.isSome = true ∧ slot.inPublic.isSome = true

/-- Properties are listed only where their names and flags allow it. -/
def Discreet (node : TypeNode) : Prop :=
  ∀ name, (node.slot name).Discreet name

/-- Public defaults of all names are listed for all. -/
def Complete (node : TypeNode) : Prop :=
  ∀ name, (node.slot name).Complete

/-- All properties are public. -/
def AllPublic : Prop :=
  ∀ (name : String) value, node.privateDescription.propertyMap[name]? = some value →
    ∀ property, node.defaults[name]? = some property →
      property.hasFlags propFlagVisibilityNonPublic = false

theorem not_private {property : Property}
    (isPublic : property.hasFlags propFlagVisibilityNonPublic = false) :
    property.hasFlags propFlagVisibilityPrivate = false := by
  rw [Property.hasFlags, propFlagVisibilityNonPublic, Flags.hasFlags_or, Bool.or_eq_false_iff]
    at isPublic
  exact isPublic.1

theorem Discreet.respectsVisibility {node : TypeNode} (discreet : node.Discreet)
    (complete : node.Complete) : node.RespectsVisibility := by
  have shown : ∀ (name : String) (mask : BitVec 32) (property : Property),
      node.defaults[name]? = some property → property.hasFlags mask = false →
      ¬ node.Conceals mask name := by
    rintro name mask property isDefault allowed (named | ⟨also, isAlso, concealed⟩)
    · rw [(discreet name).flagged property isDefault mask named] at allowed
      contradiction
    · rw [isDefault] at isAlso
      obtain rfl := Option.some.inj isAlso
      rw [allowed] at concealed
      contradiction
  constructor
  · intro name listed
    rw [mem_iff_isSome_getElem?] at listed
    obtain ⟨value, isValue⟩ := Option.isSome_iff_exists.mp listed
    obtain ⟨property, isDefault, isPublic⟩ := (discreet name).inPublic value isValue
    exact shown name _ property isDefault isPublic
  · intro name listed
    rw [mem_iff_isSome_getElem?] at listed
    obtain ⟨value, isValue⟩ := Option.isSome_iff_exists.mp listed
    obtain ⟨property, isDefault, notPrivate⟩ := (discreet name).inProtected value isValue
    exact shown name _ property isDefault notPrivate
  · intro name property isDefault notConcealed
    have isPublic : property.hasFlags propFlagVisibilityNonPublic = false := by
      rw [← Bool.not_eq_true]
      intro concealed
      exact notConcealed (Or.inr ⟨property, isDefault, concealed⟩)
    obtain ⟨-, inProtected, inPublic⟩ := complete name property isDefault isPublic
    rw [mem_iff_isSome_getElem?, mem_iff_isSome_getElem?]
    exact ⟨inPublic, inProtected⟩

variable (manager : PropertyManager)

theorem flagged_addProperty (name : String) (added mask : BitVec 32)
    (named : PropertyUtil.flagsForPropertyName name &&& mask ≠ 0) :
    ((manager.addProperty name).addFlags added).hasFlags mask = true := by
  have whole : (manager.addProperty name).hasFlags mask = true :=
    Flags.hasFlags_addFlags_of_subset _ named
  unfold Property.hasFlags Flags.hasFlags at whole ⊢
  rw [bne_iff_ne] at whole ⊢
  intro zero
  apply whole
  have distrib : ((manager.addProperty name).addFlags added).flags.bits &&& mask =
      ((manager.addProperty name).flags.bits &&& mask) ||| (added &&& mask) := by
    ext i
    simp [Property.addFlags, Flags.addFlags, Bool.and_or_distrib_right]
  rw [distrib] at zero
  exact (BitVec.or_eq_zero_iff.mp zero).1

variable {name : String} {slot : Slot}

variable {property entry : Property}

theorem Slot.Discreet.publish (discreet : slot.Discreet name) (value : Element)
    (flagged : ∀ mask, PropertyUtil.flagsForPropertyName name &&& mask ≠ 0 →
      property.hasFlags mask = true)
    (sameFlags : entry.flags = property.flags)
    (held : ∀ old, slot.default = some old → old.flags = property.flags) (isNew isChanged : Prop) :
    Slot.Discreet name
      { slot.publish value property with
        default := some entry, isNew := isNew, isChanged := isChanged } := by
  have same : ∀ mask, entry.hasFlags mask = property.hasFlags mask := by
    intro mask
    rw [Property.hasFlags, sameFlags, Property.hasFlags]
  constructor
  · intro current isCurrent mask named
    obtain rfl := Option.some.inj isCurrent
    rw [same]
    exact flagged mask named
  · intro _ _
    exact ⟨entry, rfl⟩
  · intro listed isListed
    refine ⟨entry, rfl, ?_⟩
    rw [same]
    cases isPrivate : property.hasFlags propFlagVisibilityPrivate with
    | false => rfl
    | true =>
      simp only [Slot.publish, isPrivate, Bool.not_true, Bool.false_eq_true, if_false] at isListed
      obtain ⟨old, isOld, allowed⟩ := discreet.inProtected listed isListed
      rw [Property.hasFlags, held old isOld, ← Property.hasFlags, isPrivate] at allowed
      contradiction
  · intro listed isListed
    refine ⟨entry, rfl, ?_⟩
    rw [same]
    cases nonPublic : property.hasFlags propFlagVisibilityNonPublic with
    | false => rfl
    | true =>
      simp only [Slot.publish, nonPublic, Bool.not_true, Bool.false_eq_true, if_false] at isListed
      obtain ⟨old, isOld, allowed⟩ := discreet.inPublic listed isListed
      rw [Property.hasFlags, held old isOld, ← Property.hasFlags, nonPublic] at allowed
      contradiction

theorem Slot.complete_publish (slot : Slot) (value : Element)
    (sameFlags : entry.flags = property.flags) (isNew isChanged : Prop) :
    Slot.Complete
      { slot.publish value property with
        default := some entry, isNew := isNew, isChanged := isChanged } := by
  intro current isCurrent isPublic
  obtain rfl := Option.some.inj isCurrent
  rw [Property.hasFlags, sameFlags, ← Property.hasFlags] at isPublic
  simp [Slot.publish, isPublic, not_private isPublic]

theorem Slot.update_cases (name : String) (value : Element)
    (slot : Slot) :
    (slot.update manager name value = slot ∧
      (slot.default = none ∨ PropertyUtil.isValidName name = false)) ∨
    ∃ property entry isNew isChanged,
      slot.update manager name value =
        { slot.publish value property with
          default := some entry, isNew := isNew, isChanged := isChanged } ∧
      entry.flags = property.flags ∧
      (slot.default = some property ∨
        slot.default = none ∧ ∀ mask, PropertyUtil.flagsForPropertyName name &&& mask ≠ 0 →
          property.hasFlags mask = true) := by
  unfold Slot.update
  cases valid : PropertyUtil.isValidName name with
  | false => exact Or.inl ⟨rfl, Or.inr rfl⟩
  | true =>
    cases held : slot.default with
    | none =>
      simp only [Bool.not_true, Bool.false_eq_true, if_false]
      split_ifs
      · exact Or.inl ⟨rfl, Or.inl trivial⟩
      · right
        refine ⟨_, _, _, _, rfl, rfl, Or.inr ⟨trivial, ?_⟩⟩
        intro mask named
        exact flagged_addProperty manager name propFlagClass mask named
    | some property =>
      right
      simp only [Bool.not_true, Bool.false_eq_true, if_false]
      split_ifs
      · exact ⟨property, property.set value, _, _, rfl, rfl, Or.inl rfl⟩
      · refine ⟨property, property, slot.isNew, slot.isChanged, ?_, rfl, Or.inl rfl⟩
        rw [Slot.publish, ← held]

theorem Slot.Discreet.update (discreet : slot.Discreet name)
    (manager : PropertyManager) (value : Element) :
    (slot.update manager name value).Discreet name := by
  rcases slot.update_cases manager name value with
    ⟨same, -⟩ | ⟨property, entry, isNew, isChanged, updated, sameFlags, held⟩
  · rw [same]
    exact discreet
  · rw [updated]
    rcases held with isHeld | ⟨isHeld, flagged⟩
    · apply discreet.publish value (discreet.flagged property isHeld) sameFlags
      intro old isOld
      rw [isHeld] at isOld
      rw [Option.some.inj isOld]
    · apply discreet.publish value flagged sameFlags
      intro old isOld
      rw [isHeld] at isOld
      contradiction

theorem Slot.Complete.update (complete : slot.Complete)
    (manager : PropertyManager) (value : Element) :
    (slot.update manager name value).Complete := by
  rcases slot.update_cases manager name value with
    ⟨same, -⟩ | ⟨property, entry, isNew, isChanged, updated, sameFlags, -⟩
  · rw [same]
    exact complete
  · rw [updated]
    exact slot.complete_publish value sameFlags isNew isChanged

theorem Slot.complete_update
    (valid : ∀ property, slot.default = some property → PropertyUtil.isValidName name = true)
    (manager : PropertyManager) (value : Element) :
    (slot.update manager name value).Complete := by
  rcases slot.update_cases manager name value with
    ⟨same, isNone | invalid⟩ | ⟨property, entry, isNew, isChanged, updated, sameFlags, -⟩
  · rw [same]
    intro property isDefault
    rw [isNone] at isDefault
    contradiction
  · rw [same]
    intro property isDefault
    rw [valid property isDefault] at invalid
    contradiction
  · rw [updated]
    exact slot.complete_publish value sameFlags isNew isChanged

theorem slot_updateProperties (node : TypeNode) (attributes : MapType) (manager : PropertyManager)
    (name : String) :
    ((node.updateProperties attributes manager).1.slot name) =
      { node.updatedSlot attributes manager name with isNew := False, isChanged := False } := by
  rw [← updateProperties_slot]
  rfl

theorem Slot.Discreet.unreported (discreet : slot.Discreet name) :
    Slot.Discreet name { slot with isNew := False, isChanged := False } :=
  ⟨discreet.flagged, discreet.inPrivate, discreet.inProtected, discreet.inPublic⟩

section

variable {node}

theorem Discreet.keptSlot (discreet : node.Discreet) (attributes : MapType)
    (name : String) : (node.keptSlot attributes name).Discreet name := by
  unfold TypeNode.keptSlot
  split_ifs
  · constructor <;> simp
  · exact discreet name

theorem Complete.keptSlot (complete : node.Complete) (attributes : MapType)
    (name : String) : (node.keptSlot attributes name).Complete := by
  unfold TypeNode.keptSlot
  split_ifs
  · intro property isDefault
    contradiction
  · exact complete name

theorem Discreet.updateProperties (discreet : node.Discreet)
    (attributes : MapType) (manager : PropertyManager) :
    (node.updateProperties attributes manager).1.Discreet := by
  intro name
  rw [slot_updateProperties]
  apply Slot.Discreet.unreported
  unfold updatedSlot
  cases attributes[name]? with
  | none => exact discreet.keptSlot attributes name
  | some value => exact (discreet.keptSlot attributes name).update manager value

theorem Complete.updateProperties (complete : node.Complete)
    (attributes : MapType) (manager : PropertyManager) :
    (node.updateProperties attributes manager).1.Complete := by
  intro name
  rw [slot_updateProperties]
  change (node.updatedSlot attributes manager name).Complete
  unfold updatedSlot
  cases attributes[name]? with
  | none => exact complete.keptSlot attributes name
  | some value => exact (complete.keptSlot attributes name).update manager value

end

variable {attributes : MapType}

theorem complete_updateProperties {node : TypeNode}
    (covered : ∀ (name : String) property, node.defaults[name]? = some property →
      PropertyUtil.isValidName name = true ∧ ∃ value, attributes[name]? = some value)
    (manager : PropertyManager) : (node.updateProperties attributes manager).1.Complete := by
  intro name
  rw [slot_updateProperties]
  change (node.updatedSlot attributes manager name).Complete
  unfold updatedSlot
  have kept : ∀ property, (node.keptSlot attributes name).default = some property →
      node.defaults[name]? = some property := by
    intro property isDefault
    unfold TypeNode.keptSlot at isDefault
    split_ifs at isDefault
    exact isDefault
  cases isAttribute : attributes[name]? with
  | none =>
    intro property isDefault
    obtain ⟨-, value, isValue⟩ := covered name property (kept property isDefault)
    rw [isAttribute] at isValue
    contradiction
  | some value =>
    apply Slot.complete_update
    intro property isDefault
    exact (covered name property (kept property isDefault)).1

section

variable {node} (noDefaults : node.defaults = ∅)
  (unlisted : ∀ view, (node.description view).properties = none)

include noDefaults unlisted

theorem slot_of_blank (name : String) :
    node.slot name = ⟨none, none, none, none, False, False⟩ := by
  have empty : ∀ view, (node.description view).propertyMap[name]? = none := by
    intro view
    rw [Description.propertyMap, unlisted]
    exact getElem?_empty
  unfold slot
  rw [noDefaults, getElem?_empty, show node.privateDescription.propertyMap[name]? = none
    from empty .privateView, show node.protectedDescription.propertyMap[name]? = none from
    empty .protectedView, show node.publicDescription.propertyMap[name]? = none from
    empty .publicView]

theorem discreet_of_blank : node.Discreet := by
  intro name
  rw [slot_of_blank noDefaults unlisted]
  constructor <;> simp

theorem complete_of_blank : node.Complete := by
  intro name property isDefault
  rw [slot_of_blank noDefaults unlisted] at isDefault
  contradiction

end

variable {description : Description}

theorem Discreet.setDescription {node : TypeNode} (discreet : node.Discreet)
    (allPublic : node.AllPublic)
    (same : description.properties = node.privateDescription.properties) :
    (node.setDescription description).Discreet := by
  intro name
  have listed : ∀ value, description.propertyMap[name]? = some value →
      ∃ property, node.defaults[name]? = some property ∧
        property.hasFlags propFlagVisibilityNonPublic = false := by
    intro value isValue
    rw [Description.propertyMap, same, ← Description.propertyMap] at isValue
    obtain ⟨property, isDefault⟩ := (discreet name).inPrivate value isValue
    exact ⟨property, isDefault, allPublic name value isValue property isDefault⟩
  constructor
  · exact (discreet name).flagged
  · intro value isValue
    obtain ⟨property, isDefault, -⟩ := listed value isValue
    exact ⟨property, isDefault⟩
  · intro value isValue
    obtain ⟨property, isDefault, isPublic⟩ := listed value isValue
    exact ⟨property, isDefault, not_private isPublic⟩
  · intro value isValue
    exact listed value isValue

theorem Complete.setDescription {node : TypeNode} (complete : node.Complete)
    (same : description.properties = node.privateDescription.properties) :
    (node.setDescription description).Complete := by
  intro name property isDefault isPublic
  have listed := (complete name property isDefault isPublic).1
  have isListed : description.propertyMap[name]?.isSome = true := by
    rw [Description.propertyMap, same]
    exact listed
  exact ⟨isListed, isListed, isListed⟩

theorem slot_injectProperty (node : TypeNode) (name : String) (property : Property) :
    (node.injectProperty name property).1 = node ∨
      (∀ other, other ≠ name → (node.injectProperty name property).1.slot other = node.slot other) ∧
      (node.injectProperty name property).1.slot name =
        { (node.slot name).publish property.get property with default := some property } := by
  unfold injectProperty
  by_cases invalid : (!PropertyUtil.isValidName name) = true
  · rw [if_pos invalid]
    exact Or.inl rfl
  rw [if_neg invalid]
  by_cases instanceOnly : property.hasFlags propFlagInstance = true
  · rw [if_pos instanceOnly]
    exact Or.inl rfl
  rw [if_neg instanceOnly]
  right
  constructor
  · intro other different
    have apart : name ≠ other := Ne.symm different
    unfold slot Description.addAttribute
    cases property.hasFlags propFlagVisibilityPrivate <;>
      cases property.hasFlags propFlagVisibilityNonPublic <;>
      simp [Description.propertyMap, getElem?_insert, apart]
  · unfold slot Description.addAttribute Slot.publish
    cases property.hasFlags propFlagVisibilityPrivate <;>
      cases property.hasFlags propFlagVisibilityNonPublic <;>
      simp [Description.propertyMap]

section

variable {node}

theorem Discreet.injectProperty (discreet : node.Discreet) {name : String}
    {property : Property} (isPublic : property.hasFlags propFlagVisibilityNonPublic = false)
    (flagged : ∀ mask, PropertyUtil.flagsForPropertyName name &&& mask ≠ 0 →
      property.hasFlags mask = true) : (node.injectProperty name property).1.Discreet := by
  rcases node.slot_injectProperty name property with same | ⟨others, own⟩
  · rw [same]
    exact discreet
  · intro other
    by_cases isName : other = name
    · subst isName
      rw [own]
      constructor
      · intro current isCurrent
        obtain rfl := Option.some.inj isCurrent
        exact flagged
      · exact fun _ _ => ⟨property, rfl⟩
      · exact fun _ _ => ⟨property, rfl, not_private isPublic⟩
      · exact fun _ _ => ⟨property, rfl, isPublic⟩
    · rw [others other isName]
      exact discreet other

theorem Complete.injectProperty (complete : node.Complete) (name : String)
    (property : Property) : (node.injectProperty name property).1.Complete := by
  rcases node.slot_injectProperty name property with same | ⟨others, own⟩
  · rw [same]
    exact complete
  · intro other
    by_cases isName : other = name
    · subst isName
      rw [own]
      exact Slot.complete_publish _ property.get rfl _ _
    · rw [others other isName]
      exact complete other

theorem discreet_addProperties (noDefaults : node.defaults = ∅)
    (unlisted : ∀ view, (node.description view).properties = none) (attributes : MapType)
    (manager : PropertyManager) : (node.addProperties attributes manager).Discreet := by
  intro name
  have blank := slot_of_blank noDefaults unlisted name
  have inPrivate : (node.addProperties attributes manager).privateDescription.propertyMap[name]? =
      none := congrArg Slot.inPrivate blank
  have inProtected :
      (node.addProperties attributes manager).protectedDescription.propertyMap[name]? = none :=
    congrArg Slot.inProtected blank
  have inPublic : (node.addProperties attributes manager).publicDescription.propertyMap[name]? =
      none := congrArg Slot.inPublic blank
  constructor
  · intro property isDefault mask named
    change (node.addProperties attributes manager).defaults[name]? = some property at isDefault
    rw [addProperties_getElem?, noDefaults, getElem?_empty] at isDefault
    cases isAttribute : attributes[name]? with
    | none => simp [isAttribute] at isDefault
    | some value =>
      simp only [isAttribute, elim_some, or_none, madeDefault] at isDefault
      split_ifs at isDefault
      rw [← Option.some.inj isDefault]
      exact flagged_addProperty manager name propFlagClass mask named
  · intro value isValue
    rw [slot, inPrivate] at isValue
    contradiction
  · intro value isValue
    rw [slot, inProtected] at isValue
    contradiction
  · intro value isValue
    rw [slot, inPublic] at isValue
    contradiction

theorem complete_addProperties (noDefaults : node.defaults = ∅)
    {manager : PropertyManager}
    (nonPublic : ∀ (name : String) value, attributes[name]? = some value →
      CanBeDefault manager name →
      (manager.addProperty name).hasFlags propFlagVisibilityNonPublic = true) :
    (node.addProperties attributes manager).Complete := by
  intro name property isDefault isPublic
  change (node.addProperties attributes manager).defaults[name]? = some property at isDefault
  rw [addProperties_getElem?, noDefaults, getElem?_empty] at isDefault
  cases isAttribute : attributes[name]? with
  | none => simp [isAttribute] at isDefault
  | some value =>
    simp only [isAttribute, elim_some, or_none, madeDefault] at isDefault
    split_ifs at isDefault with canBe
    rw [← Option.some.inj isDefault, Property.hasFlags, Property.addFlags,
      Flags.hasFlags_addFlags_of_disjoint _ (by decide), Property.set_flags, ← Property.hasFlags]
      at isPublic
    rw [nonPublic name value isAttribute (by simpa [CanBeDefault] using canBe)] at isPublic
    contradiction

end

instance (node : TypeNode) : Decidable node.AllPublic :=
  decidable_of_iff (∀ entry ∈ node.privateDescription.propertyMap.toList,
    ∀ property ∈ node.defaults[entry.1]?,
      property.hasFlags propFlagVisibilityNonPublic = false) <| by
    constructor
    · intro listed name value isValue
      exact listed (name, value) (ExtTreeMap.mem_toList_iff_getElem?_eq_some.mpr isValue)
    · intro allPublic entry isEntry
      exact allPublic entry.1 entry.2 (ExtTreeMap.mem_toList_iff_getElem?_eq_some.mp isEntry)

theorem AllPublic.setDescription {node : TypeNode} (allPublic : node.AllPublic)
    (same : description.properties = node.privateDescription.properties) :
    (node.setDescription description).AllPublic := by
  intro name value isValue property isDefault
  apply allPublic name value _ property isDefault
  rw [Description.propertyMap, ← same]
  exact isValue

end TypeNode

theorem EntityFactory.ruleAttribute_of_populate {factory : EntityFactory}
    (noAttributes : factory.attributes = ∅) {rule : Description} {name : String} {value : Element}
    (isAttribute : (factory.populate rule).attributes[name]? = some value) :
    ruleAttribute rule name ≠ none := by
  intro notGiven
  have both := factory.populate_getElem? rule name
  rw [notGiven, elim_none, noAttributes, getElem?_empty, Prod.mk.injEq] at both
  rw [both.1] at isAttribute
  contradiction

namespace RuleBook

/-! ## What is done to the types -/

/-- A property is injected into a type. -/
def injectProperty (book : RuleBook) (type name : String) (property : Property) : RuleBook :=
  match book.atlasObjects[type]? with
  | none => book
  | some node => book.setType type (node.injectProperty name property).1

/-- Steps of rules and injections. -/
inductive TypeAction where
  /-- A batch of rules begins. -/
  | start
  | batch (action : BatchAction)
  /-- Descriptions are set anew. -/
  | publish
  | inject (type name : String) (property : Property)

variable (state : RuleBook × Changes)

def typeStep : TypeAction → RuleBook × Changes
  | .start => (state.1, ∅)
  | .batch action => batchStep state action
  | .publish => (state.1.publish state.2, state.2)
  | .inject type name property => (state.1.injectProperty type name property, state.2)

/-- A batch of rules, or an injection. -/
inductive Request where
  | rules (batch : Batch)
  | inject (type name : String) (property : Property)

def Request.outcome (state : RuleBook × Changes) : Request → RuleBook × Changes
  | .rules batch => batch.outcome state.1
  | .inject type name property => (state.1.injectProperty type name property, state.2)

def Request.trace (state : RuleBook × Changes) : Request → List TypeAction
  | .rules batch =>
    .start :: ((batch.trace state.1).map TypeAction.batch ++
      if batch.publishes then [.publish] else [])
  | .inject type name property => [.inject type name property]

theorem Request.run_trace (request : Request) :
    run typeStep state (request.trace state) = request.outcome state := by
  cases request with
  | inject type name property => rfl
  | rules batch =>
    have small : run typeStep (state.1, ∅) ((batch.trace state.1).map TypeAction.batch) =
        run batchStep (state.1, ∅) (batch.trace state.1) := by
      rw [run, List.foldl_map]
      rfl
    rw [trace, run_cons, run_append]
    change run typeStep (run typeStep (state.1, ∅) _) _ = batch.outcome state.1
    rw [small, batch.outcome_eq state.1]
    cases batch.publishes <;> rfl

/-- New descriptions list public properties only. -/
def Shareable : TypeAction → Prop
  | .batch (.install rule) =>
    state.1.hasClass rule.id = false →
      rule.properties = none ∧
      (∀ node, state.1.atlasObjects[rule.parent]? = some node → node.AllPublic) ∧
      match rule.objtype with
      | .entityClass =>
        rule.parent = "game_entity" → ∀ name, EntityFactory.ruleAttribute rule name ≠ none →
          CanBeDefault state.1.propertyFactories name →
          (state.1.propertyFactories.addProperty name).hasFlags propFlagVisibilityNonPublic = true
      | .archetype =>
        ∀ name ∈ ["entities", "thoughts"], CanBeDefault state.1.propertyFactories name →
          (state.1.propertyFactories.addProperty name).hasFlags propFlagVisibilityNonPublic = true
      | _ => True
  | .publish =>
    ∀ (type : String) node, type ∈ state.2 → state.1.atlasObjects[type]? = some node →
      node.AllPublic
  | .inject _ name property =>
    PropertyUtil.flagsForPropertyName name = 0 ∧
      property.hasFlags propFlagVisibilityNonPublic = false
  | _ => True

/-- Types are described as they should be. -/
def Presentable (book : RuleBook) : Prop :=
  ∀ (type : String) node, book.atlasObjects[type]? = some node → node.Discreet ∧ node.Complete

theorem Presentable.congr {book changed : RuleBook} (presentable : book.Presentable)
    (types : changed.atlasObjects = book.atlasObjects) : changed.Presentable := by
  intro type node isNode
  rw [types] at isNode
  exact presentable type node isNode

section

variable {book : RuleBook} (presentable : book.Presentable)

include presentable

theorem Presentable.setType {type : String}
    {node : TypeNode} (discreet : node.Discreet) (complete : node.Complete) :
    (book.setType type node).Presentable := by
  intro other current isCurrent
  rw [atlasObjects_setType] at isCurrent
  split_ifs at isCurrent with same
  · obtain rfl := Option.some.inj isCurrent
    exact ⟨discreet, complete⟩
  · exact presentable other current isCurrent

theorem Presentable.injectProperty
    (type : String) {name : String} {property : Property}
    (publicName : PropertyUtil.flagsForPropertyName name = 0)
    (isPublic : property.hasFlags propFlagVisibilityNonPublic = false) :
    (book.injectProperty type name property).Presentable := by
  unfold RuleBook.injectProperty
  cases isNode : book.atlasObjects[type]? with
  | none => exact presentable
  | some node =>
    obtain ⟨discreet, complete⟩ := presentable type node isNode
    apply presentable.setType
    · apply discreet.injectProperty isPublic
      intro mask named
      rw [publicName] at named
      simp at named
    · exact complete.injectProperty name property

theorem Presentable.publish {changes : Changes}
    (allPublic : ∀ (type : String) node, type ∈ changes → book.atlasObjects[type]? = some node →
      node.AllPublic) : (book.publish changes).Presentable := by
  unfold RuleBook.publish
  rw [foldl_eq_foldl_toList]
  have entries : ∀ entry ∈ changes.toList, ∀ node, book.atlasObjects[entry.1]? = some node →
      node.AllPublic := by
    intro entry isEntry node isNode
    refine allPublic entry.1 node ?_ isNode
    rw [mem_iff_isSome_getElem?, ExtTreeMap.mem_toList_iff_getElem?_eq_some.mp isEntry, isSome_some]
  clear allPublic
  generalize changes.toList = list at entries
  induction list generalizing book with
  | nil => exact presentable
  | cons entry rest ih =>
    rw [List.foldl_cons]
    cases isNode : book.atlasObjects[entry.1]? with
    | none =>
      exact ih presentable fun other isRest => entries other (List.mem_cons_of_mem _ isRest)
    | some node =>
      simp only [updateClass, isNode, ne_eq, not_true_eq_false, if_false]
      obtain ⟨discreet, complete⟩ := presentable entry.1 node isNode
      have allPublic := entries entry List.mem_cons_self node isNode
      apply ih
      · exact presentable.setType (discreet.setDescription allPublic rfl)
          (complete.setDescription rfl)
      · intro other isRest current isCurrent
        rw [atlasObjects_setType] at isCurrent
        split_ifs at isCurrent
        · obtain rfl := Option.some.inj isCurrent
          exact allPublic.setDescription rfl
        · exact entries other (List.mem_cons_of_mem _ isRest) current isCurrent

end

theorem Presentable.entered {book changed : RuleBook} {rule : Description}
    (presentable : book.Presentable) (entered : Entered book changed rule)
    (unlisted : rule.properties = none)
    (allPublic : ∀ node, book.atlasObjects[rule.parent]? = some node → node.AllPublic) :
    changed.Presentable := by
  intro type node isNode
  by_cases isNew : type = rule.id
  · subst isNew
    rw [entered.type] at isNode
    obtain rfl := Option.some.inj isNode
    have lists : ∀ view, ((TypeNode.create rule.id rule).description view).properties = none := by
      rintro (_ | _ | _) <;> exact unlisted
    exact ⟨TypeNode.discreet_of_blank rfl lists, TypeNode.complete_of_blank rfl lists⟩
  · by_cases isParent : type = rule.parent
    · subst isParent
      obtain ⟨parentNode, children, wasParent, isChanged⟩ := entered.parent
      rw [isChanged] at isNode
      obtain rfl := Option.some.inj isNode
      obtain ⟨discreet, complete⟩ := presentable _ parentNode wasParent
      exact ⟨discreet.setDescription (allPublic parentNode wasParent) rfl,
        complete.setDescription rfl⟩
    · rw [entered.others type isNew isParent] at isNode
      exact presentable type node isNode

section NewClass

variable {book changed : RuleBook} {rule : Description} {kit : EntityKit} {attributes : MapType}
  (presentable : book.Presentable) (newClass : NewClass book changed rule kit attributes)
  (unlisted : rule.properties = none)
  (allPublic : ∀ node, book.atlasObjects[rule.parent]? = some node → node.AllPublic)

include presentable newClass unlisted allPublic

theorem NewClass.presentable_of_ne {type : String} {node : TypeNode} (notNew : type ≠ rule.id)
    (isNode : changed.atlasObjects[type]? = some node) : node.Discreet ∧ node.Complete := by
  obtain ⟨middle, entered, types⟩ := newClass.entered
  rw [types, if_neg (Ne.symm notNew)] at isNode
  exact presentable.entered entered unlisted allPublic type node isNode

omit presentable allPublic in
theorem NewClass.discreet {node : TypeNode} (isNode : changed.atlasObjects[rule.id]? = some node) :
    node.Discreet := by
  obtain ⟨middle, entered, types⟩ := newClass.entered
  rw [types, if_pos rfl] at isNode
  obtain rfl := Option.some.inj isNode
  apply TypeNode.discreet_addProperties
  · rfl
  · rintro (_ | _ | _) <;> exact unlisted

theorem NewClass.presentable_of_nonPublic
    (nonPublic : ∀ (name : String) value, attributes[name]? = some value →
      CanBeDefault book.propertyFactories name →
      (book.propertyFactories.addProperty name).hasFlags propFlagVisibilityNonPublic = true) :
    changed.Presentable := by
  intro type node isNode
  by_cases isNew : type = rule.id
  · subst isNew
    refine ⟨newClass.discreet unlisted isNode, ?_⟩
    obtain ⟨middle, entered, types⟩ := newClass.entered
    rw [types, if_pos rfl] at isNode
    obtain rfl := Option.some.inj isNode
    exact TypeNode.complete_addProperties rfl nonPublic
  · exact newClass.presentable_of_ne presentable unlisted allPublic isNew isNode

end NewClass

variable {factory parentFactory : EntityFactory}

theorem populate_covered {book : RuleBook} {rule : Description}
    (new : book.newEntityFactory rule.id rule.parent = .inl factory)
    (notRoot : rule.parent ≠ "game_entity")
    (known : book.entityFactory rule.parent = some parentFactory) {name : String} {value : Element}
    (isAttribute : (factory.populate rule).attributes[name]? = some value) :
    ∃ final, ((factory.populate rule).classAttributes.foldl combineInto
      parentFactory.attributes)[name]? = some final := by
  rw [EntityFactory.populate_attributes (newEntityFactory_fresh new).1,
    getElem?_foldl_combineInto] at isAttribute
  rw [getElem?_foldl_combineInto]
  cases own : (factory.populate rule).classAttributes[name]? with
  | some classAttribute => exact ⟨_, rfl⟩
  | none =>
    rw [own, elim_none] at isAttribute
    rw [elim_none]
    rw [newEntityFactory_attributes new notRoot known] at isAttribute
    split_ifs at isAttribute
    · rw [getElem?_empty] at isAttribute
      contradiction
    · exact ⟨value, isAttribute⟩

theorem Presentable.visited {book : RuleBook} {changes : Changes} {result : RuleBook × Changes}
    {visited : String → Prop} (presentable : book.Presentable)
    (visits : Visited book changes result visited) : result.1.Presentable := by
  intro type node isNode
  by_cases isVisited : visited type
  · obtain ⟨before, factory, isBefore, -, isUpdated, -⟩ := visits.inside type isVisited
    rw [isUpdated] at isNode
    obtain rfl := Option.some.inj isNode
    obtain ⟨discreet, complete⟩ := presentable type before isBefore
    exact ⟨discreet.updateProperties _ _, complete.updateProperties _ _⟩
  · rw [(visits.outside type isVisited).1] at isNode
    exact presentable type node isNode

/-- The parent's update completes it. -/
theorem Presentable.classInstalled_child {book entered : RuleBook} {changes : Changes}
    {rule : Description} (presentable : book.Presentable)
    (planted : book.Planted) (new : book.newEntityFactory rule.id rule.parent = .inl factory)
    (newClass : NewClass book entered rule (.entity (factory.populate rule))
      (factory.populate rule).attributes)
    (childless : (factory.populate rule).children = [])
    (isParent : (factory.populate rule).parent = some rule.parent)
    (known : book.entityFactory rule.parent = some parentFactory)
    (unlisted : rule.properties = none)
    (allPublic : ∀ node, book.atlasObjects[rule.parent]? = some node → node.AllPublic) :
    (updateProperties (entered.setEntityFactory rule.parent
        { parentFactory with children := parentFactory.children ++ [rule.id] }).depthBound
      (entered.setEntityFactory rule.parent
        { parentFactory with children := parentFactory.children ++ [rule.id] }, changes)
      rule.parent).1.Presentable := by
  have grown := newClass.planted_child planted childless isParent known
  obtain ⟨rank, forest⟩ := grown.forest
  have joined := (newClass.joined_entityFactory
    { parentFactory with children := parentFactory.children ++ [rule.id] } rule.parent).trans
    (if_pos rfl)
  have visits := updateProperties_visited forest joined changes (Nat.le_add_right _ _)
  have inherits := updateProperties_inherits forest joined changes (Nat.le_add_right _ _)
  have isNewFactory := (newClass.joined_entityFactory
    { parentFactory with children := parentFactory.children ++ [rule.id] } rule.id).trans
    ((if_neg (Ne.symm newClass.different)).trans (if_pos rfl))
  intro type node isNode
  by_cases isNew : type = rule.id
  · subst isNew
    have below := Below.child isNewFactory isParent Below.self
    obtain ⟨before, final, isBefore, isFinal, isUpdated, -⟩ := visits.inside _ below
    obtain ⟨old, final', parent, parentFinal, isOld, isFinal', isOldParent, -, isParentFinal,
      taken⟩ :=
      inherits.taken _ below newClass.different
    rw [isUpdated] at isNode
    obtain rfl := Option.some.inj isNode
    rw [isFinal] at isFinal'
    obtain rfl := Option.some.inj isFinal'
    rw [isNewFactory] at isOld
    obtain rfl := Option.some.inj isOld
    rw [isParent] at isOldParent
    obtain rfl := Option.some.inj isOldParent
    rw [inherits.kept, joined] at isParentFinal
    obtain rfl := Option.some.inj isParentFinal
    refine ⟨(newClass.discreet unlisted isBefore).updateProperties _ _, ?_⟩
    apply TypeNode.complete_updateProperties
    intro name property isDefault
    rw [newClass.made before isBefore, bind_eq_some_iff] at isDefault
    obtain ⟨value, isAttribute, made⟩ := isDefault
    unfold TypeNode.madeDefault at made
    split_ifs at made with canBe
    rw [Bool.and_eq_true] at canBe
    have notRoot : rule.parent ≠ "game_entity" := by
      intro isRoot
      rw [isRoot, planted.noFactory] at known
      contradiction
    rw [taken]
    exact ⟨canBe.1, populate_covered new notRoot known isAttribute⟩
  · by_cases isVisited : Below (entered.setEntityFactory rule.parent
        { parentFactory with children := parentFactory.children ++ [rule.id] }) rule.parent type
    · obtain ⟨before, final, isBefore, -, isUpdated, -⟩ := visits.inside type isVisited
      rw [isUpdated] at isNode
      obtain rfl := Option.some.inj isNode
      obtain ⟨discreet, complete⟩ :=
        newClass.presentable_of_ne presentable unlisted allPublic isNew isBefore
      exact ⟨discreet.updateProperties _ _, complete.updateProperties _ _⟩
    · rw [(visits.outside type isVisited).1] at isNode
      exact newClass.presentable_of_ne presentable unlisted allPublic isNew isNode

theorem Presentable.smallStep {state result : RuleBook × Changes} {action : BatchAction}
    (presentable : state.1.Presentable) (planted : state.1.Planted)
    (shareable : Shareable state (.batch action)) (step : SmallStep state action result) :
    result.1.Presentable := by
  have absent : ∀ name : String, state.1.atlasObjects[name]? = none →
      state.1.hasClass name = false := by
    intro name unknown
    rw [RuleBook.hasClass, contains_eq_isSome_getElem?, unknown, isSome_none]
  cases step with
  | idle => exact presentable
  | waiting _ types => exact presentable.congr types
  | entered isEntered types =>
    obtain ⟨unlisted, allPublic, -⟩ := shareable (absent _ isEntered.new)
    exact (presentable.entered isEntered unlisted allPublic).congr types
  | archetype isKind newClass _ types =>
    obtain ⟨unlisted, allPublic, kind⟩ := shareable (absent _ newClass.new)
    rw [isKind] at kind
    refine Presentable.congr ?_ types
    apply newClass.presentable_of_nonPublic presentable unlisted allPublic
    intro name value isAttribute
    apply kind name
    unfold ArchetypeFactory.attributes at isAttribute
    rw [getElem?_insert, getElem?_insert] at isAttribute
    simp only [Std.LawfulEqCmp.compare_eq_iff_eq] at isAttribute
    split_ifs at isAttribute with isThoughts isEntities
    · simp [← isThoughts]
    · simp [← isEntities]
    · rw [getElem?_empty] at isAttribute
      contradiction
  | entityClass isKind installed =>
    cases installed with
    | root new newClass childless noParent =>
      obtain ⟨unlisted, allPublic, kind⟩ := shareable (absent _ newClass.new)
      rw [isKind] at kind
      apply newClass.presentable_of_nonPublic presentable unlisted allPublic
      intro name value isAttribute
      obtain ⟨-, -, ⟨isRoot, -, noAttributes⟩ | ⟨-, isParent, -⟩⟩ := newEntityFactory_fresh new
      · exact kind isRoot name (EntityFactory.ruleAttribute_of_populate noAttributes isAttribute)
      · rw [(EntityFactory.populate_parent _ _).1, isParent] at noParent
        contradiction
    | child new newClass childless isParent known =>
      obtain ⟨unlisted, allPublic, -⟩ := shareable (absent _ newClass.new)
      exact presentable.classInstalled_child planted new newClass childless isParent known
        unlisted allPublic
  | modified known same =>
    have shapes := sameShape_setEntityFactory known same
    obtain ⟨rank, forest⟩ := (planted.sameShape shapes).forest
    have visits := updateProperties_visited forest
      ((state.1.entityFactory_setEntityFactory _ _ _).trans (if_pos rfl)) state.2
      (Nat.le_add_right _ _)
    exact Presentable.visited (presentable.congr (state.1.atlasObjects_setEntityFactory _ _)) visits

section

variable {book : RuleBook} (planted : book.Planted)

include planted

theorem Planted.setType (type : String) (node : TypeNode) : (book.setType type node).Planted := by
  have grows : ∀ name, book.hasClass name = true → (book.setType type node).hasClass name =
      true := by
    intro name known
    obtain ⟨old, isOld⟩ := getElem?_of_hasClass known
    have isNode := book.atlasObjects_setType type name node
    split_ifs at isNode
    · exact hasClass_of_getElem? isNode
    · exact hasClass_of_getElem? (isNode.trans isOld)
  apply planted.of_factories
  · exact fun _ => rfl
  · exact Nat.le_refl _
  · exact grows
  · intro name kit known
    exact grows name (planted.typed name kit known)

theorem Planted.publish (changes : Changes) : (book.publish changes).Planted := by
  unfold RuleBook.publish
  rw [foldl_eq_foldl_toList]
  generalize changes.toList = list
  induction list generalizing book with
  | nil => exact planted
  | cons entry rest ih =>
    rw [List.foldl_cons]
    apply ih
    cases isNode : book.atlasObjects[entry.1]? with
    | none => exact planted
    | some node =>
      simp only [updateClass, isNode, ne_eq, not_true_eq_false, if_false]
      exact planted.setType _ _

theorem Planted.injectProperty (type name : String)
    (property : Property) : (book.injectProperty type name property).Planted := by
  unfold RuleBook.injectProperty
  cases book.atlasObjects[type]? with
  | none => exact planted
  | some node => exact planted.setType _ _

end

theorem Presentable.typeStep {state : RuleBook × Changes}
    (inv : state.1.Planted ∧ state.1.Presentable) {action : TypeAction}
    (shareable : Shareable state action) :
    (typeStep state action).1.Planted ∧ (typeStep state action).1.Presentable := by
  obtain ⟨planted, presentable⟩ := inv
  cases action with
  | start => exact ⟨planted, presentable⟩
  | batch action =>
    have step := smallStep_batchStep planted action
    exact ⟨planted.smallStep step, presentable.smallStep planted shareable step⟩
  | publish => exact ⟨planted.publish _, presentable.publish shareable⟩
  | inject type name property =>
    exact ⟨planted.injectProperty _ _ _, presentable.injectProperty type shareable.1 shareable.2⟩

/-- If what is copied as it is has public attributes only, descriptions for outsiders never show
others. -/
theorem respectsVisibility_of_shareable {book : RuleBook} (planted : book.Planted)
    (presentable : book.Presentable) (requests : List Request)
    (admissible : Admissible typeStep Shareable (book, ∅)
      (smallSteps Request.outcome Request.trace (book, ∅) requests))
    {type : String} {node : TypeNode}
    (isNode : (run Request.outcome (book, ∅) requests).1.atlasObjects[type]? = some node) :
    node.RespectsVisibility := by
  have inv := run_invariant (fun state => state.1.Planted ∧ state.1.Presentable)
    (fun _ _ inv shareable => Presentable.typeStep inv shareable) ⟨planted, presentable⟩ admissible
  rw [run_smallSteps Request.run_trace] at inv
  obtain ⟨discreet, complete⟩ := inv.2 type node isNode
  exact discreet.respectsVisibility complete

/-- Creatures get a private attribute. -/
def secretRequests (name : String) : List Request :=
  [.rules (.installRule (plainDescription "thing" "game_entity" .entityClass)),
    .rules (.installRule (plainDescription "creature" "thing" .entityClass)),
    .rules (.modifyRule (classRule "creature" "thing" name (.int 1)))]

/-- Everyone can read it. -/
theorem builtinBook_not_respectsVisibility :
    ∃ node, (run Request.outcome (builtinBook, ∅)
      (secretRequests "__secret")).1.atlasObjects["creature"]? = some node ∧
      "__secret" ∈ (node.description .publicView).propertyMap ∧
      ¬ node.RespectsVisibility := by
  have listed : ((run Request.outcome (builtinBook, ∅)
      (secretRequests "__secret")).1.atlasObjects["creature"]?.any fun node =>
        (node.description .publicView).propertyMap.contains "__secret") = true := by
    decide +kernel
  rw [any_eq_true] at listed
  obtain ⟨node, isNode, listed⟩ := listed
  rw [contains_iff_mem] at listed
  refine ⟨node, isNode, listed, ?_⟩
  intro respects
  apply respects.publicView "__secret" listed
  left
  decide

theorem builtinBook_presentable : builtinBook.Presentable := by
  intro type node isNode
  have blank : node.defaults = ∅ ∧ ∀ view, (node.description view).properties = none := by
    unfold builtinBook at isNode
    simp only [getElem?_insert] at isNode
    split_ifs at isNode
    all_goals
      first
      | obtain rfl := Option.some.inj isNode
        exact ⟨rfl, fun view => by cases view <;> rfl⟩
      | rw [getElem?_empty] at isNode
        contradiction
  exact ⟨TypeNode.discreet_of_blank blank.1 blank.2, TypeNode.complete_of_blank blank.1 blank.2⟩

/-- A public attribute is for everyone. -/
theorem builtinBook_respectsVisibility :
    ∃ node, (run Request.outcome (builtinBook, ∅)
      (secretRequests "mass")).1.atlasObjects["creature"]? = some node ∧
      node.RespectsVisibility := by
  have known : (run Request.outcome (builtinBook, ∅)
      (secretRequests "mass")).1.atlasObjects["creature"]?.isSome = true := by
    decide +kernel
  obtain ⟨node, isNode⟩ := Option.isSome_iff_exists.mp known
  have ofOption : ∀ found : Option TypeNode, found.all (fun node => decide node.AllPublic) = true →
      ∀ node, found = some node → node.AllPublic := by
    rintro found all node rfl
    exact of_decide_eq_true all
  have ofKeys : ∀ state : RuleBook × Changes,
      (state.2.keys.all fun type =>
        state.1.atlasObjects[type]?.all fun node => decide node.AllPublic) = true →
      Shareable state .publish := by
    intro state all type node isEntry isNode
    rw [List.all_eq_true] at all
    exact ofOption _ (all type (ExtTreeMap.mem_keys.mpr isEntry)) node isNode
  refine ⟨node, isNode, ?_⟩
  refine respectsVisibility_of_shareable builtinBook_unruled.sound.toPlanted builtinBook_presentable
    (secretRequests "mass") ⟨trivial, ?_, ?_, trivial, ?_, ?_, trivial, trivial, ?_, trivial⟩ isNode
  · intro _
    refine ⟨rfl, ofOption _ (by decide +kernel), ?_⟩
    intro _ name given
    exact absurd rfl given
  · exact ofKeys _ (by decide +kernel)
  · intro _
    refine ⟨rfl, ofOption _ (by decide +kernel), ?_⟩
    intro isRoot
    exact absurd isRoot (by decide)
  · exact ofKeys _ (by decide +kernel)
  · exact ofKeys _ (by decide +kernel)

end RuleBook

end Cyphesis.Ruleset
