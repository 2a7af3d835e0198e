import Cyphesis.Common.Property
import Cyphesis.Foundation.Keyed

/-!
# Types and their descriptions

A `TypeNode` has the default properties its entities share, and three descriptions for different
readers. What `set` does to a value depends on the class of the property, which carries that
function.
-/

namespace Cyphesis.Ruleset

open Std (ExtTreeMap)
open Cyphesis.Atlas Option Std.ExtTreeMap
open Cyphesis.Common
open Cyphesis.Foundation

abbrev MapType : Type :=
  ExtTreeMap String Element compare

/-- A property of a type: its flags, what `get` gives and what `set` does. -/
structure Property where
  flags : Flags
  data : Element
  store : Element → Element → Element

namespace Property

def hasFlags (property : Property) (mask : BitVec 32) : Bool :=
  property.flags.hasFlags mask

def addFlags (property : Property) (mask : BitVec 32) : Property :=
  { property with flags := property.flags.addFlags mask }

def get (property : Property) : Element :=
  property.data

def set (property : Property) (value : Element) : Property :=
  { property with data := property.store property.data value }

@[simp]
theorem set_flags (property : Property) (value : Element) :
    (property.set value).flags = property.flags :=
  rfl

end Property

/-- A `PropertyKit`, as the property it makes. -/
structure PropertyKit where
  prototype : Property

/-- `m_propertyFactories` -/
abbrev PropertyManager : Type :=
  ExtTreeMap String PropertyKit compare

/-- A new `SoftProperty`. -/
def softProperty : Property :=
  { flags := Flags.empty, data := .none, store := fun _ value => value }

def PropertyManager.addProperty (manager : PropertyManager) (name : String) : Property :=
  let property :=
    match manager[name]? with
    | none => softProperty
    | some kit => kit.prototype
  property.addFlags (PropertyUtil.flagsForPropertyName name)

/-- Who a description is for. -/
inductive Visibility where
  | publicView
  | protectedView
  | privateView
  deriving DecidableEq

/-- The object types a rule can have. -/
inductive Objtype where
  | opDefinition
  | entityClass
  | propertyType
  | archetype
  | other
  deriving DecidableEq

/-- Atlas object that describes a type. -/
structure Description where
  id : String
  parent : String
  objtype : Objtype
  /-- `attributes`, where it is a map -/
  attributes : Option MapType
  /-- `entities`, where it is a list -/
  entities : Option (List Element)
  /-- `thoughts`, where it is a list -/
  thoughts : Option (List Element)
  children : Option (List String)
  properties : Option MapType
  access : Option Visibility

/-- The properties a description lists. -/
def Description.propertyMap (description : Description) : MapType :=
  description.properties.getD ∅

/-- Enter a value in `properties`. -/
def Description.addAttribute (description : Description) (name : String) (value : Element) :
    Description :=
  { description with properties := some (description.propertyMap.insert name value) }

/-- What happened to the defaults. -/
structure PropertiesUpdate where
  newProps : Finset String
  removedProps : Finset String
  changedProps : Finset String

def PropertiesUpdate.empty : PropertiesUpdate :=
  ⟨∅, ∅, ∅⟩

/-- Entry of a type in the type hierarchy. -/
structure TypeNode where
  name : String
  parent : Option String
  defaults : ExtTreeMap String Property compare
  privateDescription : Description
  protectedDescription : Description
  publicDescription : Description

namespace TypeNode

def description (node : TypeNode) : Visibility → Description
  | .protectedView => node.protectedDescription
  | .privateView => node.privateDescription
  | .publicView => node.publicDescription

def setDescription (node : TypeNode) (description : Description) : TypeNode :=
  { node with
    privateDescription := { description with access := some .privateView }
    protectedDescription :=
      { description with children := none, attributes := none, access := some .protectedView }
    publicDescription :=
      { description with children := none, attributes := none, access := some .publicView } }

/-- The constructor. -/
def create (name : String) (description : Description) : TypeNode :=
  setDescription
    { name := name
      parent := none
      defaults := ∅
      privateDescription := description
      protectedDescription := description
      publicDescription := description } description

/-- Make the default property of one attribute. -/
def addDefault (manager : PropertyManager) (defaults : ExtTreeMap String Property compare)
    (name : String) (value : Element) : ExtTreeMap String Property compare :=
  if !PropertyUtil.isValidName name then defaults
  else
    let property := manager.addProperty name
    if property.hasFlags propFlagInstance then defaults
    else defaults.insert name ((property.set value).addFlags propFlagClass)

/-- `TypeNode::addProperties` -/
def addProperties (node : TypeNode) (attributes : MapType) (manager : PropertyManager) : TypeNode :=
  { node with defaults := attributes.foldl (addDefault manager) node.defaults }

/-- `TypeNode::injectProperty` -/
def injectProperty (node : TypeNode) (name : String) (property : Property) :
    TypeNode × PropertiesUpdate :=
  if !PropertyUtil.isValidName name then (node, PropertiesUpdate.empty)
  else if property.hasFlags propFlagInstance then (node, PropertiesUpdate.empty)
  else
    ({ node with
       defaults := node.defaults.insert name property
       privateDescription := node.privateDescription.addAttribute name property.get
       protectedDescription :=
         if !property.hasFlags propFlagVisibilityPrivate then
           node.protectedDescription.addAttribute name property.get
         else node.protectedDescription
       publicDescription :=
         if !property.hasFlags propFlagVisibilityNonPublic then
           node.publicDescription.addAttribute name property.get
         else node.publicDescription },
     if node.defaults.contains name then { PropertiesUpdate.empty with changedProps := {name} }
     else { PropertiesUpdate.empty with newProps := {name} })

/-- Defaults, descriptions, and report. -/
structure Rebuild where
  defaults : ExtTreeMap String Property compare
  propertiesMapPrivate : MapType
  propertiesMapProtected : MapType
  propertiesMapPublic : MapType
  propertiesUpdate : PropertiesUpdate

namespace Rebuild

/-- Enter it for those who may see it. -/
def publish (state : Rebuild) (name : String) (value : Element) (property : Property) : Rebuild :=
  { state with
    propertiesMapPrivate := state.propertiesMapPrivate.insert name value
    propertiesMapProtected :=
      if !property.hasFlags propFlagVisibilityPrivate then
        state.propertiesMapProtected.insert name value
      else state.propertiesMapProtected
    propertiesMapPublic :=
      if !property.hasFlags propFlagVisibilityNonPublic then
        state.propertiesMapPublic.insert name value
      else state.propertiesMapPublic }

/-- A name that is no default yet. -/
def addEntry (manager : PropertyManager) (state : Rebuild) (name : String) (value : Element) :
    Rebuild :=
  let property := manager.addProperty name
  if property.hasFlags propFlagInstance then state
  else
    let property := (property.addFlags propFlagClass).set value
    publish
      { state with
        defaults := state.defaults.insert name property
        propertiesUpdate :=
          { state.propertiesUpdate with newProps := insert name state.propertiesUpdate.newProps } }
      name value property

/-- A name that is a default already. -/
def changeEntry (state : Rebuild) (name : String) (value : Element) (property : Property) :
    Rebuild :=
  if property.get != value then
    publish
      { state with
        defaults := state.defaults.insert name (property.set value)
        propertiesUpdate :=
          { state.propertiesUpdate with
            changedProps := insert name state.propertiesUpdate.changedProps } }
      name value property
  else publish state name value property

/-- One attribute of the second loop. -/
def updateEntry (manager : PropertyManager) (state : Rebuild) (name : String) (value : Element) :
    Rebuild :=
  if !PropertyUtil.isValidName name then state
  else
    match state.defaults[name]? with
    | none => addEntry manager state name value
    | some property => changeEntry state name value property

end Rebuild

/-- The defaults gone, but ephemeral ones. -/
def removedNames (node : TypeNode) (attributes : MapType) : List String :=
  (node.defaults.filter fun name property =>
    !attributes.contains name && !property.hasFlags propFlagPersistenceEphem).keys

/-- After the first loop. -/
def withoutRemoved (node : TypeNode) (attributes : MapType) : Rebuild :=
  let removed := node.removedNames attributes
  { defaults := removed.foldl (fun rest name => rest.erase name) node.defaults
    propertiesMapPrivate :=
      removed.foldl (fun rest name => rest.erase name) node.privateDescription.propertyMap
    propertiesMapProtected :=
      removed.foldl (fun rest name => rest.erase name) node.protectedDescription.propertyMap
    propertiesMapPublic :=
      removed.foldl (fun rest name => rest.erase name) node.publicDescription.propertyMap
    propertiesUpdate := { PropertiesUpdate.empty with removedProps := removed.toFinset } }

/-- `TypeNode::updateProperties` -/
def updateProperties (node : TypeNode) (attributes : MapType) (manager : PropertyManager) :
    TypeNode × PropertiesUpdate :=
  let state := attributes.foldl (Rebuild.updateEntry manager) (node.withoutRemoved attributes)
  ({ node with
     defaults := state.defaults
     privateDescription :=
       { node.privateDescription with properties := some state.propertiesMapPrivate }
     protectedDescription :=
       { node.protectedDescription with properties := some state.propertiesMapProtected }
     publicDescription :=
       { node.publicDescription with properties := some state.propertiesMapPublic } },
   state.propertiesUpdate)

/-- What `addProperties` makes of an attribute. -/
def madeDefault (manager : PropertyManager) (name : String) (value : Element) : Option Property :=
  if PropertyUtil.isValidName name && !(manager.addProperty name).hasFlags propFlagInstance then
    some (((manager.addProperty name).set value).addFlags propFlagClass)
  else none

variable (manager : PropertyManager) (node : TypeNode)

variable {name : String} (attributes : MapType) (state : Rebuild)

theorem addProperties_getElem? (manager : PropertyManager) (name : String) :
    (node.addProperties attributes manager).defaults[name]? =
      attributes[name]?.elim node.defaults[name]? fun value =>
        (madeDefault manager name value).or node.defaults[name]? := by
  refine foldl_map_slot
    (fun defaults name => (defaults : ExtTreeMap String Property compare)[name]?)
    (addDefault manager) (fun name value held => (madeDefault manager name value).or held) ?_ ?_
    attributes node.defaults name
  · intro defaults name value
    unfold madeDefault addDefault
    by_cases instanceOnly : (manager.addProperty name).hasFlags propFlagInstance = true <;>
      cases PropertyUtil.isValidName name <;> simp [instanceOnly]
  · intro defaults name value other different
    have apart : name ≠ other := Ne.symm different
    unfold addDefault
    by_cases instanceOnly : (manager.addProperty name).hasFlags propFlagInstance = true <;>
      cases PropertyUtil.isValidName name <;>
      simp [instanceOnly, getElem?_insert, apart]

/-- What the loops hold for one name. -/
structure Slot where
  default : Option Property
  inPrivate : Option Element
  inProtected : Option Element
  inPublic : Option Element
  isNew : Prop
  isChanged : Prop

def Rebuild.slot (state : Rebuild) (name : String) : Slot :=
  { default := state.defaults[name]?
    inPrivate := state.propertiesMapPrivate[name]?
    inProtected := state.propertiesMapProtected[name]?
    inPublic := state.propertiesMapPublic[name]?
    isNew := name ∈ state.propertiesUpdate.newProps
    isChanged := name ∈ state.propertiesUpdate.changedProps }

/-- Enter a value for its readers. -/
def Slot.publish (slot : Slot) (value : Element) (property : Property) : Slot :=
  { slot with
    inPrivate := some value
    inProtected :=
      if !property.hasFlags propFlagVisibilityPrivate then some value else slot.inProtected
    inPublic :=
      if !property.hasFlags propFlagVisibilityNonPublic then some value else slot.inPublic }

/-- What the second loop does to the slot of one attribute. -/
def Slot.update (manager : PropertyManager) (name : String) (value : Element) (slot : Slot) :
    Slot :=
  if !PropertyUtil.isValidName name then slot
  else
    match slot.default with
    | none =>
      if (manager.addProperty name).hasFlags propFlagInstance then slot
      else
        let property := ((manager.addProperty name).addFlags propFlagClass).set value
        { slot.publish value property with default := some property, isNew := True }
    | some property =>
      if property.get != value then
        { slot.publish value property with default := some (property.set value), isChanged := True }
      else slot.publish value property

theorem Rebuild.slot_publish_self (name : String) (value : Element) (property : Property) :
    (state.publish name value property).slot name = (state.slot name).publish value property := by
  unfold Rebuild.publish Rebuild.slot Slot.publish
  cases property.hasFlags propFlagVisibilityPrivate <;>
    cases property.hasFlags propFlagVisibilityNonPublic <;> simp

theorem Rebuild.slot_publish_of_ne {name other : String} (value : Element) (property : Property)
    (different : other ≠ name) :
    (state.publish name value property).slot other = state.slot other := by
  have apart : name ≠ other := Ne.symm different
  unfold Rebuild.publish Rebuild.slot
  cases property.hasFlags propFlagVisibilityPrivate <;>
    cases property.hasFlags propFlagVisibilityNonPublic <;>
    simp [getElem?_insert, apart]

theorem Rebuild.slot_updateEntry_self (name : String) (value : Element) :
    (state.updateEntry manager name value).slot name =
      (state.slot name).update manager name value := by
  unfold Rebuild.updateEntry Slot.update
  cases PropertyUtil.isValidName name with
  | false => rfl
  | true =>
    have same : (state.slot name).default = state.defaults[name]? := rfl
    cases held : state.defaults[name]? with
    | none =>
      simp only [same, held, Bool.not_true, Bool.false_eq_true, if_false, Rebuild.addEntry]
      cases (manager.addProperty name).hasFlags propFlagInstance with
      | true => rfl
      | false =>
        simp only [Bool.false_eq_true, if_false, Rebuild.slot_publish_self]
        simp [Rebuild.slot, Slot.publish]
    | some property =>
      simp only [same, held, Bool.not_true, Bool.false_eq_true, if_false, Rebuild.changeEntry]
      cases property.get != value with
      | true =>
        simp only [if_true, Rebuild.slot_publish_self]
        simp [Rebuild.slot, Slot.publish]
      | false => simp only [Bool.false_eq_true, if_false, Rebuild.slot_publish_self]

theorem Rebuild.slot_updateEntry_of_ne (name : String) (value : Element) (other : String)
    (different : other ≠ name) :
    (state.updateEntry manager name value).slot other = state.slot other := by
  have apart : name ≠ other := Ne.symm different
  unfold Rebuild.updateEntry Rebuild.addEntry Rebuild.changeEntry
  cases PropertyUtil.isValidName name with
  | false => rfl
  | true =>
    cases state.defaults[name]? with
    | none =>
      simp only [Bool.not_true, Bool.false_eq_true, if_false]
      split_ifs
      · rfl
      · rw [Rebuild.slot_publish_of_ne _ _ _ different]
        simp [Rebuild.slot, getElem?_insert, apart, different]
    | some property =>
      simp only [Bool.not_true, Bool.false_eq_true, if_false]
      split_ifs
      · rw [Rebuild.slot_publish_of_ne _ _ _ different]
        simp [Rebuild.slot, getElem?_insert, apart, different]
      · rw [Rebuild.slot_publish_of_ne _ _ _ different]

theorem mem_removedNames (name : String) :
    name ∈ node.removedNames attributes ↔
      attributes[name]? = none ∧
        ∃ property, node.defaults[name]? = some property ∧
          property.hasFlags propFlagPersistenceEphem = false := by
  rw [removedNames, mem_keys, mem_iff_isSome_getElem?,
    getElem?_filter', contains_eq_isSome_getElem?]
  cases attributes[name]? <;> cases node.defaults[name]? <;> simp [isSome_filter]

/-- Held before the second loop. -/
def keptSlot (node : TypeNode) (attributes : MapType) (name : String) : Slot :=
  if name ∈ node.removedNames attributes then
    { default := none
      inPrivate := none
      inProtected := none
      inPublic := none
      isNew := False
      isChanged := False }
  else
    { default := node.defaults[name]?
      inPrivate := node.privateDescription.propertyMap[name]?
      inProtected := node.protectedDescription.propertyMap[name]?
      inPublic := node.publicDescription.propertyMap[name]?
      isNew := False
      isChanged := False }

theorem slot_withoutRemoved (name : String) :
    (node.withoutRemoved attributes).slot name = node.keptSlot attributes name := by
  unfold withoutRemoved Rebuild.slot keptSlot
  simp only [getElem?_foldl_erase, PropertiesUpdate.empty]
  split_ifs <;> simp

/-- What an update leaves for a name. -/
def updatedSlot (node : TypeNode) (attributes : MapType) (manager : PropertyManager)
    (name : String) : Slot :=
  attributes[name]?.elim (node.keptSlot attributes name) fun value =>
    (node.keptSlot attributes name).update manager name value

theorem updateProperties_slot (manager : PropertyManager) (name : String) :
    { default := (node.updateProperties attributes manager).1.defaults[name]?
      inPrivate :=
        (node.updateProperties attributes manager).1.privateDescription.propertyMap[name]?
      inProtected :=
        (node.updateProperties attributes manager).1.protectedDescription.propertyMap[name]?
      inPublic := (node.updateProperties attributes manager).1.publicDescription.propertyMap[name]?
      isNew := name ∈ (node.updateProperties attributes manager).2.newProps
      isChanged := name ∈ (node.updateProperties attributes manager).2.changedProps : Slot } =
      node.updatedSlot attributes manager name := by
  have whole := foldl_map_slot Rebuild.slot (Rebuild.updateEntry manager)
    (fun name value slot => Slot.update manager name value slot)
    (fun state name value => Rebuild.slot_updateEntry_self manager state name value)
    (fun state name value other => Rebuild.slot_updateEntry_of_ne manager state name value other)
    attributes (node.withoutRemoved attributes) name
  rw [slot_withoutRemoved] at whole
  exact whole

/-- What is left of a default. -/
def updatedDefault (manager : PropertyManager) (name : String) (value : Element)
    (held : Option Property) : Option Property :=
  if !PropertyUtil.isValidName name then held
  else
    match held with
    | none =>
      if (manager.addProperty name).hasFlags propFlagInstance then none
      else some (((manager.addProperty name).addFlags propFlagClass).set value)
    | some property => if property.get != value then some (property.set value) else some property

theorem Slot.default_update (name : String) (value : Element) (slot : Slot) :
    (slot.update manager name value).default = updatedDefault manager name value slot.default := by
  unfold Slot.update updatedDefault
  cases PropertyUtil.isValidName name with
  | false => rfl
  | true =>
    cases held : slot.default with
    | none =>
      simp only [Bool.not_true, Bool.false_eq_true, if_false]
      split_ifs
      · exact held
      · rfl
    | some property =>
      simp only [Bool.not_true, Bool.false_eq_true, if_false]
      split_ifs
      · rfl
      · exact held

theorem keptSlot_default_of_attribute {node : TypeNode} {attributes : MapType} {value : Element}
    (isAttribute : attributes[name]? = some value) :
    (node.keptSlot attributes name).default = node.defaults[name]? := by
  have kept : name ∉ node.removedNames attributes := by
    rw [mem_removedNames, isAttribute]
    simp
  rw [keptSlot, if_neg kept]

theorem updateProperties_default_of_attribute {node : TypeNode} {attributes : MapType}
    {value : Element} (isAttribute : attributes[name]? = some value) :
    (node.updateProperties attributes manager).1.defaults[name]? =
      updatedDefault manager name value node.defaults[name]? := by
  have slot := congrArg Slot.default (node.updateProperties_slot attributes manager name)
  rw [updatedSlot, isAttribute, elim_some, Slot.default_update,
    keptSlot_default_of_attribute isAttribute] at slot
  exact slot

theorem updateProperties_default_of_gone {node : TypeNode} {attributes : MapType}
    (isGone : attributes[name]? = none) :
    (node.updateProperties attributes manager).1.defaults[name]? =
      node.defaults[name]?.filter fun property => property.hasFlags propFlagPersistenceEphem := by
  have slot := congrArg Slot.default (node.updateProperties_slot attributes manager name)
  rw [updatedSlot, isGone, elim_none, keptSlot] at slot
  have removed := node.mem_removedNames attributes name
  rw [isGone] at removed
  cases held : node.defaults[name]? with
  | none =>
    rw [held] at slot
    split_ifs at slot <;> simpa using slot
  | some property =>
    rw [held] at slot removed
    cases ephemeral : property.hasFlags propFlagPersistenceEphem with
    | false =>
      rw [if_pos (removed.mpr ⟨rfl, property, rfl, ephemeral⟩)] at slot
      simpa [Option.filter, ephemeral] using slot
    | true =>
      have kept : name ∉ node.removedNames attributes := by
        rw [removed]
        simp [ephemeral]
      rw [if_neg kept] at slot
      simpa [Option.filter, ephemeral] using slot

end TypeNode

end Cyphesis.Ruleset
