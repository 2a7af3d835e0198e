import Cyphesis.Rules.LocatedEntity

/-!
# The record of active modifiers

An entity records which modifiers others have put on it, as pairs of a property and an address.
-/

namespace Cyphesis.Rules

open Cyphesis.Common

namespace LocatedEntity

variable {entity : LocatedEntity} {name : String} {affecting other : Nat} {pair : String × Nat}

/-- Pairs of an affecting entity. -/
def modifiersFrom (entity : LocatedEntity) (affecting : Nat) : List (String × Nat) :=
  entity.activeModifiers[affecting]?.getD []

/-- Pair recorded for a modifier. -/
def recordedPair (modifier : String × ModifierRef) : String × Nat :=
  (modifier.1, modifier.2.address)

/-- No one else has a pair of it. -/
def Unshared (entity : LocatedEntity) (affecting : Nat) : Prop :=
  ∀ pair ∈ entity.modifiersFrom affecting, ∀ other ≠ affecting, pair ∉ entity.modifiersFrom other

/-- The entity takes modifiers on properties of these names. -/
structure Takes (entity : LocatedEntity) (modifiers : List (String × ModifierRef)) : Prop where
  allowed : entity.hasFlags entityModifiersNotAllowed = false
  validName : ∀ modifier ∈ modifiers, PropertyUtil.isValidName modifier.1 = true

section

variable (entity)

@[simp]
theorem setAttr_activeModifiers (name : String)
    (modifier : Option Modifier) :
    (entity.setAttr name modifier).activeModifiers = entity.activeModifiers := by
  unfold setAttr
  split <;> rfl

@[simp]
theorem enqueueUpdateOp_activeModifiers :
    entity.enqueueUpdateOp.activeModifiers = entity.activeModifiers :=
  rfl

@[simp]
theorem setAttr_parent (name : String) (modifier : Option Modifier) :
    (entity.setAttr name modifier).parent = entity.parent := by
  unfold setAttr
  split <;> rfl

@[simp]
theorem enqueueUpdateOp_parent : entity.enqueueUpdateOp.parent = entity.parent :=
  rfl

end

variable {modifier : ModifierRef}

theorem addModifier_activeModifiers
    (allowed : entity.hasFlags entityModifiersNotAllowed = false)
    (valid : PropertyUtil.isValidName name = true) :
    (entity.addModifier name modifier affecting).activeModifiers =
      (entity.recordModifier affecting name modifier.address).activeModifiers := by
  unfold addModifier
  simp only [allowed, valid, Bool.false_eq_true, if_false, if_true]
  split
  · split
    · rfl
    · simp
  · split
    · split
      · rfl
      · simp
    · simp

section

variable (entity)

theorem removeModifier_activeModifiers (name : String)
    (modifier : ModifierRef) :
    (entity.removeModifier name modifier).activeModifiers =
      (entity.forgetModifier name modifier.address).activeModifiers := by
  unfold removeModifier
  dsimp only
  split
  · rfl
  · split
    · simp [setAttrValue]
    · rfl

/-- The same parent and readiness. -/
structure SameHost (before after : LocatedEntity) : Prop where
  parent : after.parent = before.parent
  allowed : after.hasFlags entityModifiersNotAllowed = before.hasFlags entityModifiersNotAllowed

theorem SameHost.refl : SameHost entity entity :=
  ⟨rfl, rfl⟩

end

theorem SameHost.trans {before middle after : LocatedEntity} (first : SameHost before middle)
    (second : SameHost middle after) : SameHost before after :=
  ⟨second.parent.trans first.parent, second.allowed.trans first.allowed⟩

section

variable (entity)

theorem sameHost_recordModifier (affecting : Nat) (name : String)
    (address : Nat) : SameHost entity (entity.recordModifier affecting name address) :=
  ⟨rfl, rfl⟩

theorem sameHost_forgetModifier (name : String) (address : Nat) :
    SameHost entity (entity.forgetModifier name address) := by
  unfold forgetModifier
  split <;> exact ⟨rfl, rfl⟩

theorem sameHost_setAttr
    (properties : Std.TreeMap String ModifiableProperty) (name : String)
    (modifier : Option Modifier) :
    SameHost entity
      (({ entity with properties := properties }).setAttr name modifier).enqueueUpdateOp where
  parent := by simp
  allowed := by
    rw [enqueueUpdateOp_hasFlags _ (by decide), setAttr_hasFlags _ _ _ (by decide)]
    rfl

end

section

variable (entity) (name) (modifier)

theorem sameHost_addModifier
    (affecting : Nat) : SameHost entity (entity.addModifier name modifier affecting) := by
  have recorded := sameHost_recordModifier entity affecting name modifier.address
  unfold addModifier
  split
  · exact SameHost.refl entity
  · split
    · dsimp only
      split
      · split
        · exact recorded
        · exact recorded.trans (sameHost_setAttr _ _ _ _)
      · split
        · split
          · exact recorded
          · exact recorded.trans (sameHost_setAttr _ _ _ _)
        · exact recorded.trans (sameHost_setAttr _ _ _ _)
    · exact SameHost.refl entity

theorem sameHost_removeModifier : SameHost entity (entity.removeModifier name modifier) := by
  have forgotten := sameHost_forgetModifier entity name modifier.address
  unfold removeModifier
  dsimp only
  split
  · exact forgotten
  · split
    · exact forgotten.trans (sameHost_setAttr _ _ _ _)
    · exact forgotten

end

theorem modifiersFrom_recordModifier (entity : LocatedEntity) (affecting other : Nat)
    (name : String) (address : Nat) :
    (entity.recordModifier affecting name address).modifiersFrom other =
      if other = affecting then (entity.modifiersFrom affecting).insert (name, address)
      else entity.modifiersFrom other := by
  by_cases same : other = affecting
  · simp [modifiersFrom, recordModifier, same]
  · simp [modifiersFrom, recordModifier, Std.TreeMap.getElem?_insert, same, Ne.symm same]

theorem modifiersFrom_addModifier
    (allowed : entity.hasFlags entityModifiersNotAllowed = false)
    (valid : PropertyUtil.isValidName name = true) (affecting other : Nat) :
    (entity.addModifier name modifier affecting).modifiersFrom other =
      if other = affecting then (entity.modifiersFrom affecting).insert (name, modifier.address)
      else entity.modifiersFrom other := by
  rw [← modifiersFrom_recordModifier]
  unfold modifiersFrom
  rw [addModifier_activeModifiers allowed valid]

theorem modifiersFrom_forgetModifier {address : Nat}
    (recorded : (name, address) ∈ entity.modifiersFrom affecting)
    (unshared : ∀ other ≠ affecting, (name, address) ∉ entity.modifiersFrom other) (other : Nat) :
    (entity.forgetModifier name address).modifiersFrom other =
      if other = affecting then (entity.modifiersFrom affecting).erase (name, address)
      else entity.modifiersFrom other := by
  have found : ∃ entry, entity.activeModifiers.toList.find?
      (fun entry => (name, address) ∈ entry.2) = some entry := by
    apply Option.isSome_iff_exists.mp
    rw [List.find?_isSome]
    cases present : entity.activeModifiers[affecting]? with
    | none => simp [modifiersFrom, present] at recorded
    | some pairs =>
      refine ⟨(affecting, pairs), ?_, ?_⟩
      · exact Std.TreeMap.mem_toList_iff_getElem?_eq_some.mpr present
      · simpa [modifiersFrom, present] using recorded
  obtain ⟨⟨holder, pairs⟩, isFound⟩ := found
  have isEntry := List.mem_of_find?_eq_some isFound
  have present := Std.TreeMap.mem_toList_iff_getElem?_eq_some.mp isEntry
  have holds : (name, address) ∈ entity.modifiersFrom holder := by
    have isMember := List.find?_some isFound
    simpa [modifiersFrom, present] using isMember
  have isAffecting : holder = affecting := by
    by_contra different
    exact unshared holder different holds
  subst isAffecting
  have forgotten : entity.forgetModifier name address =
      { entity with
        activeModifiers :=
          entity.activeModifiers.insert holder (pairs.erase (name, address)) } := by
    unfold forgetModifier
    rw [isFound]
  rw [forgotten]
  by_cases same : other = holder
  · simp [modifiersFrom, same, present]
  · simp [modifiersFrom, Std.TreeMap.getElem?_insert, same, Ne.symm same]

theorem modifiersFrom_removeModifier
    (recorded : (name, modifier.address) ∈ entity.modifiersFrom affecting)
    (unshared : ∀ other ≠ affecting, (name, modifier.address) ∉ entity.modifiersFrom other)
    (other : Nat) :
    (entity.removeModifier name modifier).modifiersFrom other =
      if other = affecting then (entity.modifiersFrom affecting).erase (name, modifier.address)
      else entity.modifiersFrom other := by
  rw [← modifiersFrom_forgetModifier recorded unshared]
  unfold modifiersFrom
  rw [removeModifier_activeModifiers]

end LocatedEntity

end Cyphesis.Rules
