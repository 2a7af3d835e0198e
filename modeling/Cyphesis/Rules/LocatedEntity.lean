import Cyphesis.Common.Property

/-!
# Properties of an entity

An entity keeps for each property its object, its active modifiers, and a base value which is only
meaningful while some modifier is active. `entityUpdateBroadcastQueued` stands for the Update
operation in the world's queue.
-/

namespace Cyphesis.Rules

open Cyphesis.Atlas
open Cyphesis.Common
open Cyphesis.Foundation

/-- Written to permanent store. -/
def entityClean : BitVec 32 := 1#32 <<< 0

def entityPosClean : BitVec 32 := 1#32 <<< 1

def entityOrientClean : BitVec 32 := 1#32 <<< 2

def entityCleanMask : BitVec 32 :=
  entityClean ||| entityPosClean ||| entityOrientClean

/-- The entity has been destroyed. -/
def entityDestroyed : BitVec 32 := 1#32 <<< 4

/-- Queued for a storage update. -/
def entityQueued : BitVec 32 := 1#32 <<< 5

/-- The entity is ephemeral. -/
def entityEphem : BitVec 32 := 1#32 <<< 6

/-- The entity is an administrator. -/
def entityAdmin : BitVec 32 := 1#32 <<< 12

/-- Visible inside a container. -/
def entityContainedVisible : BitVec 32 := 1#32 <<< 14

/-- No modifier affects it. -/
def entityModifiersNotAllowed : BitVec 32 := 1#32 <<< 15

/-- For its parent and administrators. -/
def entityVisibilityProtected : BitVec 32 := 1#32 <<< 16

/-- The entity is only visible to administrators. -/
def entityVisibilityPrivate : BitVec 32 := 1#32 <<< 17

/-- An Update broadcast is queued already. -/
def entityUpdateBroadcastQueued : BitVec 32 := 1#32 <<< 18

/-- A `Modifier*`: an address and an object. -/
structure ModifierRef where
  address : Nat
  object : Modifier

/-- A property with the modifiers on it and its value without them. -/
structure ModifiableProperty where
  property : Option SoftProperty
  baseValue : Element
  modifiers : List (ModifierRef × Nat)

/-- The entry `m_properties[name]` creates. -/
def ModifiableProperty.empty : ModifiableProperty :=
  { property := none, baseValue := .none, modifiers := [] }

/-- A type with its defaults. -/
structure TypeNode where
  name : String
  defaults : Std.TreeMap String SoftProperty

/-- Part of an entity that is used here. -/
structure LocatedEntity where
  id : Nat
  type : Option TypeNode
  flags : Flags
  seq : Int
  parent : Option Nat
  properties : Std.TreeMap String ModifiableProperty
  activeModifiers : Std.TreeMap Nat (List (String × Nat))

namespace LocatedEntity

def hasFlags (entity : LocatedEntity) (mask : BitVec 32) : Bool :=
  entity.flags.hasFlags mask

/-- Default of the type. -/
def typeDefault (entity : LocatedEntity) (name : String) : Option SoftProperty :=
  entity.type.bind fun type => type.defaults[name]?

/-- `getAttr`: the instance value, or the default. -/
def getAttr (entity : LocatedEntity) (name : String) : Option Element :=
  match entity.properties[name]? with
  | some entry => entry.property.map SoftProperty.get
  | none => (entity.typeDefault name).map SoftProperty.get

/-- Value of an attribute, or nothing. -/
def valueOf (entity : LocatedEntity) (name : String) : Element :=
  (entity.getAttr name).getD .none

/-- Modifiers of a property, in their order. -/
def modifiersOf (entity : LocatedEntity) (name : String) : List (ModifierRef × Nat) :=
  match entity.properties[name]? with
  | some entry => entry.modifiers
  | none => []

/-- Applying a property marks the property and the entity as unsaved. -/
def applyProperty (entity : LocatedEntity) (name : String) (property : SoftProperty) :
    LocatedEntity :=
  let entry := entity.properties[name]?.getD .empty
  { entity with
    properties := entity.properties.insert name
      { entry with property := some (property.addFlags propFlagUnsent) }
    flags := entity.flags.removeFlags entityClean }

/-- The property that is set: the entity's own, a copy of the type's, or a new one. -/
def propertyForSet (entity : LocatedEntity) (name : String) : SoftProperty :=
  match entity.properties[name]?.bind ModifiableProperty.property with
  | some property => property
  | none =>
    match entity.typeDefault name with
    | some property => property
    | none => addProperty name

/-- Fold the active modifiers over a value. -/
def applyModifiers (modifiers : List (ModifierRef × Nat)) (baseValue start : Element) : Element :=
  modifiers.foldl (fun attr entry => entry.1.object.process attr baseValue) start

/-- The value, and the base value. -/
def newValue (entry : ModifiableProperty) (property : SoftProperty) (modifier : Option Modifier) :
    Element × Element :=
  if entry.modifiers.isEmpty then
    match modifier with
    | none => (.none, entry.baseValue)
    | some modifier =>
      if modifier.type = .default then (modifier.value, entry.baseValue)
      else (modifier.process property.get property.get, entry.baseValue)
  else
    match modifier with
    | none => (applyModifiers entry.modifiers entry.baseValue .none, entry.baseValue)
    | some modifier =>
      if modifier.type = .default then
        (applyModifiers entry.modifiers modifier.value modifier.value, modifier.value)
      else
        (applyModifiers entry.modifiers entry.baseValue
          (modifier.process entry.baseValue entry.baseValue), entry.baseValue)

/-- `LocatedEntity::setAttr`: names that are not valid change nothing. -/
def setAttr (entity : LocatedEntity) (name : String) (modifier : Option Modifier) :
    LocatedEntity :=
  if PropertyUtil.isValidName name then
    let entry := entity.properties[name]?.getD .empty
    let property := entity.propertyForSet name
    let value := newValue entry property modifier
    let changed := { entity with
      properties := entity.properties.insert name { entry with baseValue := value.2 } }
    changed.applyProperty name ((property.removeFlags propFlagPersistenceClean).set value.1)
  else
    entity

def setAttrValue (entity : LocatedEntity) (name : String) (attr : Element) : LocatedEntity :=
  let parsed := PropertyUtil.parsePropertyModification name
  entity.setAttr parsed.2 (some (Modifier.createModifier parsed.1 attr))

def enqueueUpdateOp (entity : LocatedEntity) : LocatedEntity :=
  { entity with flags := entity.flags.addFlags entityUpdateBroadcastQueued }

/-- `m_activeModifiers[affectingEntity].emplace(propertyName, modifier)`. -/
def recordModifier (entity : LocatedEntity) (affecting : Nat) (name : String) (address : Nat) :
    LocatedEntity :=
  let recorded := entity.activeModifiers[affecting]?.getD []
  { entity with
    activeModifiers := entity.activeModifiers.insert affecting (recorded.insert (name, address)) }

/-- Erase its first record. -/
def forgetModifier (entity : LocatedEntity) (name : String) (address : Nat) : LocatedEntity :=
  match entity.activeModifiers.toList.find? (fun entry => (name, address) ∈ entry.2) with
  | none => entity
  | some (affecting, recorded) =>
    { entity with
      activeModifiers :=
        entity.activeModifiers.insert affecting (recorded.erase (name, address)) }

/-- The type default is asked for bit 15. -/
def addModifier (entity : LocatedEntity) (name : String) (modifier : ModifierRef)
    (affecting : Nat) : LocatedEntity :=
  if entity.hasFlags entityModifiersNotAllowed then entity
  else if PropertyUtil.isValidName name then
    let recorded := entity.recordModifier affecting name modifier.address
    match recorded.properties[name]? with
    | some entry =>
      if (entry.property.map (·.hasFlags propFlagModifiersNotAllowed)).getD false then recorded
      else
        let baseValue :=
          if entry.modifiers.isEmpty then
            (entry.property.map SoftProperty.get).getD entry.baseValue
          else entry.baseValue
        let changed := { recorded with
          properties := recorded.properties.insert name { entry with
            baseValue := baseValue
            modifiers := entry.modifiers ++ [(modifier, affecting)] } }
        (changed.setAttr name (some (.createModifier .default baseValue))).enqueueUpdateOp
    | none =>
      match recorded.typeDefault name with
      | some property =>
        if property.hasFlags entityModifiersNotAllowed then recorded
        else
          let changed := { recorded with
            properties := recorded.properties.insert name
              { property := none
                baseValue := property.get
                modifiers := [(modifier, affecting)] } }
          (changed.setAttr name (some (.createModifier .default property.get))).enqueueUpdateOp
      | none =>
        let changed := { recorded with
          properties := recorded.properties.insert name
            { property := none
              baseValue := .none
              modifiers := [(modifier, affecting)] } }
        (changed.setAttr name none).enqueueUpdateOp
  else entity

/-- The first with the pointer goes. -/
def removeModifier (entity : LocatedEntity) (name : String) (modifier : ModifierRef) :
    LocatedEntity :=
  let forgotten := entity.forgetModifier name modifier.address
  match forgotten.properties[name]? with
  | none => forgotten
  | some entry =>
    if entry.modifiers.any (·.1.address == modifier.address) then
      let changed := { forgotten with
        properties := forgotten.properties.insert name { entry with
          modifiers := entry.modifiers.eraseP (·.1.address == modifier.address) } }
      (changed.setAttrValue name entry.baseValue).enqueueUpdateOp
    else forgotten

/-! ## What each operation leaves behind

Later proofs use these facts and do not unfold the operations. -/

/-- What `setAttr` leaves. -/
def settledEntry (entity : LocatedEntity) (name : String) (modifier : Option Modifier) :
    ModifiableProperty :=
  let entry := entity.properties[name]?.getD .empty
  let property := entity.propertyForSet name
  let value := newValue entry property modifier
  { property := some
      (((property.removeFlags propFlagPersistenceClean).set value.1).addFlags propFlagUnsent)
    baseValue := value.2
    modifiers := entry.modifiers }

variable (entity : LocatedEntity)

variable (name : String) (modifier : Option Modifier) (affecting : Nat)

theorem setAttr_getElem?_self {name : String} (valid : PropertyUtil.isValidName name = true) :
    (entity.setAttr name modifier).properties[name]? =
      some (entity.settledEntry name modifier) := by
  simp [setAttr, valid, applyProperty, settledEntry]

theorem setAttr_getElem?_of_ne {name other : String} (different : name ≠ other) :
    (entity.setAttr name modifier).properties[other]? = entity.properties[other]? := by
  by_cases valid : PropertyUtil.isValidName name = true
  · simp [setAttr, valid, applyProperty, Std.TreeMap.getElem?_insert, different]
  · simp [setAttr, valid]

@[simp]
theorem setAttr_type : (entity.setAttr name modifier).type = entity.type := by
  unfold setAttr
  split <;> rfl

@[simp]
theorem setAttr_typeDefault (name other : String) (modifier : Option Modifier) :
    (entity.setAttr name modifier).typeDefault other = entity.typeDefault other := by
  simp [typeDefault]

theorem setAttr_hasFlags (modifier : Option Modifier) {mask : BitVec 32}
    (other : mask &&& entityClean = 0) :
    (entity.setAttr name modifier).hasFlags mask = entity.hasFlags mask := by
  unfold setAttr
  split
  · exact Flags.hasFlags_removeFlags_of_disjoint _ other
  · rfl

@[simp]
theorem enqueueUpdateOp_properties : entity.enqueueUpdateOp.properties = entity.properties :=
  rfl

theorem enqueueUpdateOp_hasFlags {mask : BitVec 32}
    (other : entityUpdateBroadcastQueued &&& mask = 0) :
    entity.enqueueUpdateOp.hasFlags mask = entity.hasFlags mask :=
  Flags.hasFlags_addFlags_of_disjoint _ other

@[simp]
theorem recordModifier_properties (name : String) (address : Nat) :
    (entity.recordModifier affecting name address).properties = entity.properties :=
  rfl

@[simp]
theorem recordModifier_typeDefault (name other : String) (address : Nat) :
    (entity.recordModifier affecting name address).typeDefault other = entity.typeDefault other :=
  rfl

@[simp]
theorem recordModifier_flags (name : String) (address : Nat) :
    (entity.recordModifier affecting name address).flags = entity.flags :=
  rfl

@[simp]
theorem forgetModifier_properties (address : Nat) :
    (entity.forgetModifier name address).properties = entity.properties := by
  unfold forgetModifier
  split <;> rfl

@[simp]
theorem forgetModifier_flags (address : Nat) :
    (entity.forgetModifier name address).flags = entity.flags := by
  unfold forgetModifier
  split <;> rfl

@[simp]
theorem forgetModifier_typeDefault (name other : String) (address : Nat) :
    (entity.forgetModifier name address).typeDefault other = entity.typeDefault other := by
  unfold forgetModifier
  split <;> rfl

theorem setAttrValue_of_isValidName {name : String} (attr : Element)
    (valid : PropertyUtil.isValidName name = true) :
    entity.setAttrValue name attr =
      entity.setAttr name (some (Modifier.createModifier .default attr)) := by
  simp [setAttrValue, PropertyUtil.parsePropertyModification_of_isValidName valid]

end LocatedEntity

end Cyphesis.Rules
