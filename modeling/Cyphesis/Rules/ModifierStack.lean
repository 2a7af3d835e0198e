import Cyphesis.Foundation.Run
import Cyphesis.Rules.LocatedEntity

/-!
# Modifiers as a stack over a base value

The value of a property is its modifiers folded over a base value.
-/

namespace Cyphesis.Rules

open Cyphesis.Atlas List Option
open Cyphesis.Common
open Cyphesis.Foundation

/-- The calls on properties and modifiers. -/
inductive PropertyCall where
  | setDefault (name : String) (value : Element)
  | addModifier (name : String) (modifier : ModifierRef) (affecting : Nat)
  | removeModifier (name : String) (modifier : ModifierRef)

/-- The property a call is about. -/
def PropertyCall.target : PropertyCall → String
  | .setDefault name _ => name
  | .addModifier name _ _ => name
  | .removeModifier name _ => name

namespace LocatedEntity

/-- Perform a call on an entity. -/
def perform (entity : LocatedEntity) : PropertyCall → LocatedEntity
  | .setDefault name value => entity.setAttr name (some (.createModifier .default value))
  | .addModifier name modifier affecting => entity.addModifier name modifier affecting
  | .removeModifier name modifier => entity.removeModifier name modifier

end LocatedEntity

/-- A base value and the modifiers active on it. -/
structure ModifierStack where
  base : Element
  modifiers : List (ModifierRef × Nat)

namespace ModifierStack

/-- The effective value. -/
def value (stack : ModifierStack) : Element :=
  LocatedEntity.applyModifiers stack.modifiers stack.base stack.base

/-- What a call means for the property `name`. -/
def perform (name : String) (stack : ModifierStack) : PropertyCall → ModifierStack
  | .setDefault target value =>
    if target = name then { stack with base := value } else stack
  | .addModifier target modifier affecting =>
    if target = name then
      { stack with modifiers := stack.modifiers ++ [(modifier, affecting)] }
    else stack
  | .removeModifier target modifier =>
    if target = name then
      { stack with modifiers := stack.modifiers.eraseP (·.1.address == modifier.address) }
    else stack

@[simp]
theorem value_of_nil (base : Element) : value ⟨base, []⟩ = base :=
  rfl

end ModifierStack

/-- Unmodified, and none is forbidden. -/
structure Modifiable (entity : LocatedEntity) (name : String) : Prop where
  validName : PropertyUtil.isValidName name = true
  entityAllows : entity.hasFlags entityModifiersNotAllowed = false
  typeAllows : ∀ property, entity.typeDefault name = some property →
    property.hasFlags propFlagModifiersNotAllowed = false ∧
      property.hasFlags entityModifiersNotAllowed = false
  instanceAllows : ∀ entry, entity.properties[name]? = some entry →
    entry.modifiers = [] ∧ ∃ property, entry.property = some property ∧
      property.hasFlags propFlagModifiersNotAllowed = false

/-- The entry represents the stack. -/
structure Refines (settled : Prop) (entity : LocatedEntity) (name : String)
    (stack : ModifierStack) : Prop where
  entityAllows : entity.hasFlags entityModifiersNotAllowed = false
  typeAllows : ∀ property, entity.typeDefault name = some property →
    property.hasFlags propFlagModifiersNotAllowed = false ∧
      property.hasFlags entityModifiersNotAllowed = false
  absent : entity.properties[name]? = none →
    stack.modifiers = [] ∧
      stack.base = ((entity.typeDefault name).map SoftProperty.get).getD .none
  present : ∀ entry, entity.properties[name]? = some entry →
    ∃ property, entry.property = some property ∧
      property.hasFlags propFlagModifiersNotAllowed = false ∧
      (settled ∨ stack.modifiers = [] → property.get = stack.value) ∧
      entry.modifiers = stack.modifiers ∧
      (stack.modifiers ≠ [] → entry.baseValue = stack.base)

namespace Refines

variable {settled : Prop} {entity : LocatedEntity} {name : String} {stack : ModifierStack}

theorem modifiersOf_eq (refines : Refines settled entity name stack) :
    entity.modifiersOf name = stack.modifiers := by
  unfold LocatedEntity.modifiersOf
  cases found : entity.properties[name]? with
  | none => exact (refines.absent found).1.symm
  | some entry =>
    obtain ⟨_, _, _, _, modifiers, _⟩ := refines.present entry found
    exact modifiers

theorem valueOf_eq (refines : Refines settled entity name stack)
    (isSettled : settled ∨ stack.modifiers = []) :
    entity.valueOf name = stack.value := by
  unfold LocatedEntity.valueOf LocatedEntity.getAttr
  cases found : entity.properties[name]? with
  | none =>
    obtain ⟨modifiers, base⟩ := refines.absent found
    simp only [ModifierStack.value, modifiers, base]
    rfl
  | some entry =>
    obtain ⟨property, isProperty, _, value, _⟩ := refines.present entry found
    simp [isProperty, value isSettled]

theorem initial (modifiable : Modifiable entity name) :
    Refines settled entity name ⟨entity.valueOf name, []⟩ where
  entityAllows := modifiable.entityAllows
  typeAllows := modifiable.typeAllows
  absent := by
    intro missing
    simp [LocatedEntity.valueOf, LocatedEntity.getAttr, missing]
  present := by
    intro entry found
    obtain ⟨modifiers, property, isProperty, allows⟩ := modifiable.instanceAllows entry found
    refine ⟨property, isProperty, allows, fun _ => ?_, modifiers, fun active => absurd rfl active⟩
    simp [LocatedEntity.valueOf, LocatedEntity.getAttr, found, isProperty]

end Refines

theorem addProperty_allows (name : String) :
    (addProperty name).hasFlags propFlagModifiersNotAllowed = false := by
  simp only [SoftProperty.hasFlags, addProperty]
  rw [Flags.hasFlags_addFlags_of_disjoint]
  · simp
  · unfold PropertyUtil.flagsForPropertyName
    split <;> decide

namespace LocatedEntity

variable (entity : LocatedEntity) (name : String) (value : Element)

theorem settledEntry_default :
    ∃ property, (entity.settledEntry name (some (.createModifier .default value))).property =
        some property ∧
      property.get = applyModifiers (entity.modifiersOf name) value value ∧
      property.hasFlags propFlagModifiersNotAllowed =
        (entity.propertyForSet name).hasFlags propFlagModifiersNotAllowed := by
  refine ⟨_, rfl, ?_, ?_⟩
  · simp only [SoftProperty.get_addFlags, SoftProperty.get_set, newValue,
      Modifier.createModifier, modifiersOf]
    cases entity.properties[name]? with
    | none => rfl
    | some entry =>
      cases modifiers : entry.modifiers <;> simp [modifiers, applyModifiers]
  · simp only [SoftProperty.hasFlags, SoftProperty.flags_addFlags, SoftProperty.flags_set,
      SoftProperty.flags_removeFlags]
    rw [Flags.hasFlags_addFlags_of_disjoint _ (by decide),
      Flags.hasFlags_removeFlags_of_disjoint _ (by decide)]

theorem settledEntry_modifiers
    (modifier : Option Modifier) :
    (entity.settledEntry name modifier).modifiers = entity.modifiersOf name := by
  simp only [settledEntry, modifiersOf]
  cases entity.properties[name]? <;> rfl

theorem settledEntry_default_baseValue
    (active : entity.modifiersOf name ≠ []) :
    (entity.settledEntry name (some (.createModifier .default value))).baseValue = value := by
  simp only [settledEntry, newValue, Modifier.createModifier]
  simp only [modifiersOf] at active
  cases found : entity.properties[name]? with
  | none => simp [found] at active
  | some entry =>
    have nonempty : entry.modifiers ≠ [] := by simpa [found] using active
    simp [nonempty]

theorem setAttr_none_eq_default_none {name : String}
    {entry : ModifiableProperty} (found : entity.properties[name]? = some entry)
    (active : entry.modifiers ≠ []) (noBase : entry.baseValue = .none) :
    entity.setAttr name none = entity.setAttr name (some (.createModifier .default .none)) := by
  simp [setAttr, newValue, found, active, noBase, Modifier.createModifier]

end LocatedEntity

namespace Refines

variable {settled : Prop} {entity : LocatedEntity} {name : String} {stack : ModifierStack}

variable {changed : LocatedEntity}

theorem of_default_set (value : Element)
    (valid : PropertyUtil.isValidName name = true)
    (entityAllows : changed.hasFlags entityModifiersNotAllowed = false)
    (typeAllows : ∀ property, changed.typeDefault name = some property →
      property.hasFlags propFlagModifiersNotAllowed = false ∧
        property.hasFlags entityModifiersNotAllowed = false)
    (propertyAllows : (changed.propertyForSet name).hasFlags propFlagModifiersNotAllowed = false) :
    Refines settled (changed.setAttr name (some (.createModifier .default value))) name
      ⟨value, changed.modifiersOf name⟩ where
  entityAllows := by
    rw [LocatedEntity.setAttr_hasFlags _ _ _ (by decide)]
    exact entityAllows
  typeAllows := by
    intro property isDefault
    rw [LocatedEntity.setAttr_typeDefault] at isDefault
    exact typeAllows property isDefault
  absent := by
    intro missing
    rw [LocatedEntity.setAttr_getElem?_self _ _ valid] at missing
    contradiction
  present := by
    intro entry found
    rw [LocatedEntity.setAttr_getElem?_self _ _ valid, Option.some.injEq] at found
    subst found
    obtain ⟨property, isProperty, get, allows⟩ := changed.settledEntry_default name value
    exact ⟨property, isProperty, allows.trans propertyAllows, fun _ => get,
      changed.settledEntry_modifiers name _,
      fun active => changed.settledEntry_default_baseValue name value active⟩

section

variable (refines : Refines settled entity name stack)

include refines

theorem enqueueUpdateOp : Refines settled entity.enqueueUpdateOp name stack where
  entityAllows := by
    rw [LocatedEntity.enqueueUpdateOp_hasFlags _ (by decide)]
    exact refines.entityAllows
  typeAllows := refines.typeAllows
  absent := refines.absent
  present := refines.present

theorem congr
    (sameEntry : changed.properties[name]? = entity.properties[name]?)
    (sameDefault : changed.typeDefault name = entity.typeDefault name)
    (sameFlag : changed.hasFlags entityModifiersNotAllowed =
      entity.hasFlags entityModifiersNotAllowed) :
    Refines settled changed name stack where
  entityAllows := sameFlag.trans refines.entityAllows
  typeAllows := by
    rw [sameDefault]
    exact refines.typeAllows
  absent := by
    rw [sameEntry, sameDefault]
    exact refines.absent
  present := by
    rw [sameEntry]
    exact refines.present

theorem propertyForSet_allows :
    (entity.propertyForSet name).hasFlags propFlagModifiersNotAllowed = false := by
  unfold LocatedEntity.propertyForSet
  cases found : entity.properties[name]? with
  | some entry =>
    obtain ⟨property, isProperty, allows, _⟩ := refines.present entry found
    simpa [isProperty] using allows
  | none =>
    cases isDefault : entity.typeDefault name with
    | some property => simpa using (refines.typeAllows property isDefault).1
    | none =>
      exact addProperty_allows name

theorem setDefault (value : Element)
    (valid : PropertyUtil.isValidName name = true) :
    Refines settled (entity.setAttr name (some (.createModifier .default value))) name
      { stack with base := value } := by
  rw [← refines.modifiersOf_eq]
  exact of_default_set value valid refines.entityAllows refines.typeAllows
    refines.propertyForSet_allows

/-- What is written has its modifiers. -/
theorem of_entry_set (written : ModifiableProperty)
    (value : Element) (valid : PropertyUtil.isValidName name = true)
    (propertyAllows : ∀ property, written.property = some property →
      property.hasFlags propFlagModifiersNotAllowed = false) :
    Refines settled
      (LocatedEntity.setAttr { entity with properties := entity.properties.insert name written }
        name (some (.createModifier .default value)))
      name ⟨value, written.modifiers⟩ := by
  have modifiers : LocatedEntity.modifiersOf
      { entity with properties := entity.properties.insert name written } name =
        written.modifiers := by
    simp [LocatedEntity.modifiersOf]
  rw [← modifiers]
  refine of_default_set value valid refines.entityAllows refines.typeAllows ?_
  unfold LocatedEntity.propertyForSet
  cases isProperty : written.property with
  | some property => simpa [isProperty] using propertyAllows property isProperty
  | none =>
    simp only [Std.TreeMap.getElem?_insert_self, bind_some, isProperty]
    cases isDefault : entity.typeDefault name with
    | some property =>
      have sameDefault : LocatedEntity.typeDefault
          { entity with properties := entity.properties.insert name written } name =
            some property := isDefault
      simpa [sameDefault] using (refines.typeAllows property isDefault).1
    | none =>
      have sameDefault : LocatedEntity.typeDefault
          { entity with properties := entity.properties.insert name written } name = none :=
        isDefault
      simp only [sameDefault]
      exact addProperty_allows name

theorem recordModifier (affecting : Nat) (target : String)
    (address : Nat) :
    Refines settled (entity.recordModifier affecting target address) name stack :=
  refines.congr (by simp) (by simp) (by simp [LocatedEntity.hasFlags])

theorem forgetModifier (target : String) (address : Nat) :
    Refines settled (entity.forgetModifier target address) name stack :=
  refines.congr (by simp) (by simp) (by simp [LocatedEntity.hasFlags])

variable (modifier : ModifierRef)

/-- It goes on top of the stack. -/
theorem addModifier
    (affecting : Nat) (valid : PropertyUtil.isValidName name = true) :
    Refines settled (entity.addModifier name modifier affecting) name
      { stack with modifiers := stack.modifiers ++ [(modifier, affecting)] } := by
  have recorded := refines.recordModifier affecting name modifier.address
  simp only [LocatedEntity.addModifier, refines.entityAllows, valid, if_true,
    Bool.false_eq_true, if_false]
  cases found : (entity.recordModifier affecting name modifier.address).properties[name]? with
  | some entry =>
    obtain ⟨property, isProperty, allows, value, modifiers, base⟩ :=
      recorded.present entry found
    have baseValue :
        (if entry.modifiers.isEmpty then
          (entry.property.map SoftProperty.get).getD entry.baseValue
        else entry.baseValue) = stack.base := by
      by_cases empty : stack.modifiers = []
      · have stackValue : stack.value = stack.base := by
          simp [ModifierStack.value, empty, LocatedEntity.applyModifiers]
        simp [modifiers, empty, isProperty, value (.inr empty), stackValue]
      · simp [modifiers, empty, base empty]
    simp only [isProperty, map_some, getD_some, allows, Bool.false_eq_true, if_false]
    simp only [isProperty, map_some, getD_some] at baseValue
    rw [baseValue, ← modifiers]
    refine (recorded.of_entry_set
      { property := some property
        baseValue := stack.base
        modifiers := entry.modifiers ++ [(modifier, affecting)] }
      stack.base valid ?_).enqueueUpdateOp
    intro other isOther
    rw [Option.some.injEq] at isOther
    exact isOther ▸ allows
  | none =>
    obtain ⟨empty, base⟩ := recorded.absent found
    cases isDefault : (entity.recordModifier affecting name modifier.address).typeDefault name with
    | some property =>
      have allows := recorded.typeAllows property isDefault
      simp only [isDefault, map_some, getD_some] at base
      simp only [allows.2, Bool.false_eq_true, if_false]
      rw [empty, base]
      exact (recorded.of_entry_set
        { property := none, baseValue := property.get, modifiers := [(modifier, affecting)] }
        property.get valid (by simp)).enqueueUpdateOp
    | none =>
      -- Setting no modifier runs the list over nothing, as a default set of
      -- nothing would.
      simp only [isDefault, map_none, getD_none] at base
      rw [empty, base]
      have written := recorded.of_entry_set
        { property := none, baseValue := .none, modifiers := [(modifier, affecting)] }
        .none valid (by simp)
      refine Refines.enqueueUpdateOp ?_
      rw [LocatedEntity.setAttr_none_eq_default_none _
        (Std.TreeMap.getElem?_insert_self) (by simp) rfl]
      exact written

theorem removeModifier
    (valid : PropertyUtil.isValidName name = true) :
    Refines settled (entity.removeModifier name modifier) name
      { stack with
        modifiers := stack.modifiers.eraseP (·.1.address == modifier.address) } := by
  have forgotten := refines.forgetModifier name modifier.address
  simp only [LocatedEntity.removeModifier]
  cases found : (entity.forgetModifier name modifier.address).properties[name]? with
  | none =>
    have unchanged :
        stack.modifiers.eraseP (·.1.address == modifier.address) = stack.modifiers := by
      rw [(forgotten.absent found).1]
      rfl
    simp only [unchanged]
    exact forgotten
  | some entry =>
    obtain ⟨property, isProperty, allows, _, modifiers, base⟩ := forgotten.present entry found
    by_cases active : entry.modifiers.any (·.1.address == modifier.address) = true
    · have nonempty : stack.modifiers ≠ [] := by
        rintro empty
        simp [modifiers, empty] at active
      simp only [active, if_true]
      rw [LocatedEntity.setAttrValue_of_isValidName _ _ valid, base nonempty, ← modifiers]
      refine (forgotten.of_entry_set
        { property := entry.property
          baseValue := stack.base
          modifiers := entry.modifiers.eraseP (·.1.address == modifier.address) }
        stack.base valid ?_).enqueueUpdateOp
      intro other isOther
      rw [isProperty, Option.some.injEq] at isOther
      exact isOther ▸ allows
    · have unchanged :
          stack.modifiers.eraseP (·.1.address == modifier.address) = stack.modifiers := by
        rw [← modifiers]
        refine eraseP_of_forall_not ?_
        intro candidate member same
        exact active (List.any_eq_true.mpr ⟨candidate, member, same⟩)
      simp only [active, Bool.false_eq_true, if_false]
      rw [unchanged]
      exact forgotten

end

end Refines

/-- All a property depends on is the same. -/
structure SameProperty (name : String) (entity changed : LocatedEntity) : Prop where
  entry : changed.properties[name]? = entity.properties[name]?
  default : changed.typeDefault name = entity.typeDefault name
  flag : changed.hasFlags entityModifiersNotAllowed = entity.hasFlags entityModifiersNotAllowed

namespace SameProperty

variable {name target : String} {entity changed : LocatedEntity}

section

variable (same : SameProperty name entity changed)

include same

theorem insert (different : target ≠ name)
    (written : ModifiableProperty) :
    SameProperty name entity
      { changed with properties := changed.properties.insert target written } where
  entry := by
    simpa [Std.TreeMap.getElem?_insert, different] using same.entry
  default := same.default
  flag := same.flag

theorem setAttr (different : target ≠ name)
    (modifier : Option Modifier) :
    SameProperty name entity (changed.setAttr target modifier) where
  entry := (LocatedEntity.setAttr_getElem?_of_ne changed modifier different).trans same.entry
  default := (LocatedEntity.setAttr_typeDefault changed target name modifier).trans same.default
  flag := (LocatedEntity.setAttr_hasFlags changed target modifier (by decide)).trans same.flag

theorem enqueueUpdateOp : SameProperty name entity changed.enqueueUpdateOp where
  entry := same.entry
  default := same.default
  flag := (LocatedEntity.enqueueUpdateOp_hasFlags changed (by decide)).trans same.flag

end

section

variable (entity)

theorem recordModifier (affecting : Nat) (address : Nat) :
    SameProperty name entity (entity.recordModifier affecting target address) :=
  ⟨rfl, rfl, rfl⟩

theorem forgetModifier (address : Nat) :
    SameProperty name entity (entity.forgetModifier target address) :=
  ⟨by simp, by simp, by simp [LocatedEntity.hasFlags]⟩

theorem addModifier (different : target ≠ name)
    (modifier : ModifierRef) (affecting : Nat) :
    SameProperty name entity (entity.addModifier target modifier affecting) := by
  have recorded : SameProperty name entity
      (entity.recordModifier affecting target modifier.address) :=
    recordModifier entity affecting modifier.address
  unfold LocatedEntity.addModifier
  split
  · exact ⟨rfl, rfl, rfl⟩
  · split
    · dsimp only
      split
      · split
        · exact recorded
        · exact ((recorded.insert different _).setAttr different _).enqueueUpdateOp
      · split
        · split
          · exact recorded
          · exact ((recorded.insert different _).setAttr different _).enqueueUpdateOp
        · exact ((recorded.insert different _).setAttr different _).enqueueUpdateOp
    · exact ⟨rfl, rfl, rfl⟩

theorem removeModifier (different : target ≠ name)
    (valid : PropertyUtil.isValidName target = true) (modifier : ModifierRef) :
    SameProperty name entity (entity.removeModifier target modifier) := by
  have forgotten : SameProperty name entity (entity.forgetModifier target modifier.address) :=
    forgetModifier entity modifier.address
  unfold LocatedEntity.removeModifier
  dsimp only
  split
  · exact forgotten
  · split
    · rw [LocatedEntity.setAttrValue_of_isValidName _ _ valid]
      exact ((forgotten.insert different _).setAttr different _).enqueueUpdateOp
    · exact forgotten

theorem perform (call : PropertyCall)
    (valid : PropertyUtil.isValidName call.target = true) (different : call.target ≠ name) :
    SameProperty name entity (entity.perform call) := by
  cases call with
  | setDefault target value =>
    have same : SameProperty name entity entity := ⟨rfl, rfl, rfl⟩
    exact same.setAttr different _
  | addModifier target modifier affecting => exact addModifier entity different modifier affecting
  | removeModifier target modifier => exact removeModifier entity different valid modifier

end

end SameProperty

namespace ModifierStack

theorem perform_of_ne {name : String} (stack : ModifierStack) {call : PropertyCall}
    (different : call.target ≠ name) : stack.perform name call = stack := by
  cases call <;> exact if_neg different

end ModifierStack

namespace Refines

variable {settled : Prop} {entity : LocatedEntity} {name : String} {stack : ModifierStack}

theorem perform (refines : Refines settled entity name stack) (call : PropertyCall)
    (valid : PropertyUtil.isValidName call.target = true) :
    Refines settled (entity.perform call) name (stack.perform name call) := by
  by_cases same : call.target = name
  · cases call with
    | setDefault target value =>
      obtain rfl : target = name := same
      simpa [LocatedEntity.perform, ModifierStack.perform] using refines.setDefault value valid
    | addModifier target modifier affecting =>
      obtain rfl : target = name := same
      simpa [LocatedEntity.perform, ModifierStack.perform] using
        refines.addModifier modifier affecting valid
    | removeModifier target modifier =>
      obtain rfl : target = name := same
      simpa [LocatedEntity.perform, ModifierStack.perform] using
        refines.removeModifier modifier valid
  · have frame := SameProperty.perform entity call valid same
    rw [ModifierStack.perform_of_ne stack same]
    exact refines.congr frame.entry frame.default frame.flag

variable {calls : List PropertyCall}

theorem run (refines : Refines settled entity name stack)
    (valid : ∀ call ∈ calls, PropertyUtil.isValidName call.target = true) :
    Refines settled (Foundation.run LocatedEntity.perform entity calls) name
      (Foundation.run (ModifierStack.perform name) stack calls) :=
  run_simulation (fun state abstract => Refines settled state name abstract)
    (fun _ _ call related validTarget => related.perform call validTarget) refines valid

end Refines

/-- The last default, or the start. -/
def lastDefaultSet (name : String) (start : Element) (calls : List PropertyCall) : Element :=
  calls.foldl
    (fun base call =>
      match call with
      | .setDefault target value => if target = name then value else base
      | _ => base)
    start

namespace ModifierStack

theorem run_base (name : String) (stack : ModifierStack) (calls : List PropertyCall) :
    (run (ModifierStack.perform name) stack calls).base = lastDefaultSet name stack.base calls := by
  induction calls generalizing stack with
  | nil => rfl
  | cons call rest ih =>
    rw [run_cons, ih]
    cases call <;> simp only [perform, lastDefaultSet, foldl_cons] <;> split <;> rfl

end ModifierStack

/-- After any history of calls the value of a property is the fold of its modifiers, kind by kind,
over its base value. -/
theorem valueOf_run_eq_fold {entity : LocatedEntity} {name : String}
    (modifiable : Modifiable entity name) (calls : List PropertyCall)
    (valid : ∀ call ∈ calls, PropertyUtil.isValidName call.target = true) :
    let final := run LocatedEntity.perform entity calls
    let base := lastDefaultSet name (entity.valueOf name) calls
    final.modifiersOf name =
        (run (ModifierStack.perform name) ⟨entity.valueOf name, []⟩ calls).modifiers ∧
      final.valueOf name =
        (final.modifiersOf name).foldl (fun attr entry => entry.1.object.process attr base) base ∧
      (final.modifiersOf name = [] → final.valueOf name = base) := by
  intro final base
  have refines : Refines True final name
      (run (ModifierStack.perform name) ⟨entity.valueOf name, []⟩ calls) :=
    (Refines.initial modifiable).run valid
  have modifiers := refines.modifiersOf_eq
  have value : final.valueOf name =
      (final.modifiersOf name).foldl (fun attr entry => entry.1.object.process attr base) base := by
    rw [refines.valueOf_eq (.inl trivial), ModifierStack.value, ModifierStack.run_base, modifiers]
    rfl
  refine ⟨modifiers, value, ?_⟩
  intro none
  rw [value, none]
  rfl

/-- One integer property, no type. -/
def plainEntity (name : String) (value : Element) : LocatedEntity :=
  { id := 1
    type := none
    flags := Flags.empty
    seq := 0
    parent := none
    properties := (∅ : Std.TreeMap String ModifiableProperty).insert name
      { property := some ⟨Flags.empty, value⟩, baseValue := .none, modifiers := [] }
    activeModifiers := ∅ }

theorem plainEntity_modifiable (value : Element) : Modifiable (plainEntity "foo" value) "foo" where
  validName := by decide
  entityAllows := by simp [plainEntity, LocatedEntity.hasFlags]
  typeAllows := by
    intro property isDefault
    cases isDefault
  instanceAllows := by
    intro entry found
    simp only [plainEntity, Std.TreeMap.getElem?_insert_self, Option.some.injEq] at found
    subst found
    exact ⟨rfl, _, rfl, by simp [SoftProperty.hasFlags]⟩

theorem valueOf_run_eq_fold_addTwice :
    (run LocatedEntity.perform (plainEntity "foo" (.int 1))
      [.addModifier "foo" ⟨7, ⟨.append, .int 10⟩⟩ 2, .setDefault "foo" (.int 5),
        .addModifier "foo" ⟨7, ⟨.append, .int 10⟩⟩ 2]).valueOf "foo" = .int 25 := by
  have history := (valueOf_run_eq_fold (plainEntity_modifiable (.int 1))
    [.addModifier "foo" ⟨7, ⟨.append, .int 10⟩⟩ 2, .setDefault "foo" (.int 5),
      .addModifier "foo" ⟨7, ⟨.append, .int 10⟩⟩ 2] (by decide))
  rw [history.2.1, history.1]
  rfl

section

variable {name : String} {modifier : Modifier}

theorem LocatedEntity.settledEntry_relative_baseValue (entity : LocatedEntity)
    {entry : ModifiableProperty}
    (found : entity.properties[name]? = some entry) (active : entry.modifiers ≠ [])
    (relative : modifier.type ≠ .default) :
    (entity.settledEntry name (some modifier)).baseValue = entry.baseValue := by
  simp [settledEntry, newValue, found, active, relative]

theorem Refines.setRelative {settled : Prop} {entity : LocatedEntity}
    {stack : ModifierStack} (refines : Refines settled entity name stack)
    (valid : PropertyUtil.isValidName name = true) (active : stack.modifiers ≠ [])
    (relative : modifier.type ≠ .default) :
    Refines False (entity.setAttr name (some modifier)) name stack where
  entityAllows := by
    rw [LocatedEntity.setAttr_hasFlags _ _ _ (by decide)]
    exact refines.entityAllows
  typeAllows := by
    intro property isDefault
    rw [LocatedEntity.setAttr_typeDefault] at isDefault
    exact refines.typeAllows property isDefault
  absent := by
    intro missing
    rw [LocatedEntity.setAttr_getElem?_self _ _ valid] at missing
    contradiction
  present := by
    intro settledEntry found
    rw [LocatedEntity.setAttr_getElem?_self _ _ valid, Option.some.injEq] at found
    subst found
    cases before : entity.properties[name]? with
    | none => exact absurd (refines.absent before).1 active
    | some entry =>
      obtain ⟨property, isProperty, allows, _, modifiers, base⟩ := refines.present entry before
      refine ⟨_, rfl, ?_, ?_, ?_, ?_⟩
      · rw [SoftProperty.hasFlags, SoftProperty.flags_addFlags, SoftProperty.flags_set,
          SoftProperty.flags_removeFlags, Flags.hasFlags_addFlags_of_disjoint _ (by decide),
          Flags.hasFlags_removeFlags_of_disjoint _ (by decide)]
        exact refines.propertyForSet_allows
      · rintro (impossible | empty)
        · exact impossible.elim
        · exact absurd empty active
      · rw [entity.settledEntry_modifiers, refines.modifiersOf_eq]
      · intro _
        rw [entity.settledEntry_relative_baseValue before (modifiers ▸ active) relative]
        exact base active

end

/-- A call that adds or removes a modifier. -/
def PropertyCall.changesModifiers : PropertyCall → Bool
  | .setDefault _ _ => false
  | .addModifier _ _ _ => true
  | .removeModifier _ _ => true

theorem lastDefaultSet_of_changesModifiers (name : String) (start : Element)
    (changes : ∀ call ∈ calls, call.changesModifiers = true) :
    lastDefaultSet name start calls = start := by
  induction calls with
  | nil => rfl
  | cons call rest ih =>
    have later := ih fun next member => changes next (mem_cons_of_mem call member)
    cases call with
    | setDefault target value => exact absurd (changes _ mem_cons_self) Bool.false_ne_true
    | addModifier target modifier affecting => exact later
    | removeModifier target modifier => exact later

/-- A value set by a relative modifier is there again after later changes just if that modifier has
no effect on the base value. -/
theorem relativeSet_survives_iff_neutral {settled : Prop} {entity : LocatedEntity} {name : String}
    {stack : ModifierStack} (refines : Refines settled entity name stack)
    (valid : PropertyUtil.isValidName name = true) (active : stack.modifiers ≠ [])
    {modifier : Modifier} (relative : modifier.type ≠ .default) {calls : List PropertyCall}
    (validTargets : ∀ call ∈ calls, PropertyUtil.isValidName call.target = true)
    (changes : ∀ call ∈ calls, call.changesModifiers = true)
    (noneLeft :
      (run LocatedEntity.perform (entity.setAttr name (some modifier)) calls).modifiersOf name =
        []) :
    (run LocatedEntity.perform (entity.setAttr name (some modifier)) calls).valueOf name =
        modifier.process stack.base stack.base ↔
      modifier.Neutral stack.base := by
  have final := (refines.setRelative valid active relative).run validTargets
  have empty : (run (ModifierStack.perform name) stack calls).modifiers = [] :=
    final.modifiersOf_eq.symm.trans noneLeft
  have value :
      (run LocatedEntity.perform (entity.setAttr name (some modifier)) calls).valueOf name =
        stack.base := by
    rw [final.valueOf_eq (.inr empty), ModifierStack.value, empty, ModifierStack.run_base,
      lastDefaultSet_of_changesModifiers name stack.base changes]
    rfl
  rw [value, eq_comm]
  exact modifier.process_eq_self_iff stack.base

/-- `foo` is 1, and 10 is appended. -/
def modifiedEntity : LocatedEntity :=
  (plainEntity "foo" (.int 1)).perform (.addModifier "foo" ⟨7, ⟨.append, .int 10⟩⟩ 2)

theorem modifiedEntity_refines :
    Refines True modifiedEntity "foo" ⟨.int 1, [(⟨7, ⟨.append, .int 10⟩⟩, 2)]⟩ :=
  (Refines.initial (plainEntity_modifiable (.int 1))).perform
    (.addModifier "foo" ⟨7, ⟨.append, .int 10⟩⟩ 2) (by decide)

/-- Appending text changes nothing. -/
theorem relativeSet_survives_of_otherType :
    (run LocatedEntity.perform
        (modifiedEntity.setAttr "foo" (some ⟨.append, .string "two"⟩))
        [.removeModifier "foo" ⟨7, ⟨.append, .int 10⟩⟩]).valueOf "foo" =
      (Modifier.mk .append (.string "two")).process (.int 1) (.int 1) :=
  (relativeSet_survives_iff_neutral modifiedEntity_refines (by decide) (by simp) (by decide)
    (by decide) (by decide) (by rfl)).mpr trivial

/-- Appending 2 gives 1, else 3. -/
theorem relativeSet_lost_under_modifier :
    (run LocatedEntity.perform (modifiedEntity.setAttr "foo" (some ⟨.append, .int 2⟩))
        [.removeModifier "foo" ⟨7, ⟨.append, .int 10⟩⟩]).modifiersOf "foo" = [] ∧
      (run LocatedEntity.perform (modifiedEntity.setAttr "foo" (some ⟨.append, .int 2⟩))
        [.removeModifier "foo" ⟨7, ⟨.append, .int 10⟩⟩]).valueOf "foo" = .int 1 ∧
      ((plainEntity "foo" (.int 1)).setAttr "foo" (some ⟨.append, .int 2⟩)).valueOf "foo" =
        .int 3 ∧
      Element.int 1 ≠ (Modifier.mk .append (.int 2)).process (.int 1) (.int 1) := by
  refine ⟨by rfl, by rfl, by rfl, ?_⟩
  intro same
  exact absurd (Element.int.inj same) (by decide)

end Cyphesis.Rules
