import Cyphesis.Atlas.Element

/-!
# Property modifiers

Each class of modifiers keeps its own definition.
-/

namespace Cyphesis.Rules

open Cyphesis.Atlas

/-- `enum class ModifierType`. -/
inductive ModifierType where
  | default
  | prepend
  | append
  | subtract
  | addFraction
  deriving DecidableEq

/-- A modifier with its `mValue`. -/
structure Modifier where
  type : ModifierType
  value : Element

namespace Modifier

def createModifier (type : ModifierType) (attr : Element) : Modifier :=
  ⟨type, attr⟩

end Modifier

/-- Overwrite entries with others. -/
def mapAssignAll (entries added : List (String × Element)) : List (String × Element) :=
  added.foldl (fun current entry => mapAssign entry.1 entry.2 current) entries

/-- Erase the keys of one map from another. -/
def mapEraseAll (entries removed : List (String × Element)) : List (String × Element) :=
  removed.foldl (fun current entry => mapErase entry.1 current) entries

/-- Erase all that are listed. -/
def listEraseAll (items removed : List Element) : List Element :=
  removed.foldl (fun current item => current.filter fun candidate => !(candidate == item)) items

/-- `DefaultModifier::process`: the value takes the place of the old one. -/
def DefaultModifier.process (value _element _baseValue : Element) : Element :=
  value

/-- `PrependModifier::process`: values of different kinds leave the element alone. -/
def PrependModifier.process (value element _baseValue : Element) : Element :=
  match element, value with
  | .none, value => value
  | .int old, .int added => .int (added + old)
  | .float old, .float added => .float (added + old)
  | .string old, .string added => .string (added ++ old)
  | .map old, .map added => .map (mapAssignAll old added)
  | .list old, .list added => .list (added ++ old)
  | element, _ => element

/-- `AppendModifier::process`: values of different kinds leave the element alone. -/
def AppendModifier.process (value element _baseValue : Element) : Element :=
  match element, value with
  | .none, value => value
  | .int old, .int added => .int (old + added)
  | .float old, .float added => .float (old + added)
  | .string old, .string added => .string (old ++ added)
  | .map old, .map added => .map (mapAssignAll old added)
  | .list old, .list added => .list (old ++ added)
  | element, _ => element

/-- `SubtractModifier::process`: what is taken away from nothing is taken from zero. -/
def SubtractModifier.process (value element _baseValue : Element) : Element :=
  match value, element with
  | .int removed, .none => .int (0 - removed)
  | .int removed, .int old => .int (old - removed)
  | .float removed, .none => .float (0 - removed)
  | .float removed, .float old => .float (old - removed)
  | .string _, .none => .string ""
  | .map _, .none => .map []
  | .map removed, .map old => .map (mapEraseAll old removed)
  | .list _, .none => .list []
  | .list removed, .list old => .list (listEraseAll old removed)
  | _, element => element

/-- `AddFractionModifier::process`: a share of the base value is added. -/
def AddFractionModifier.process (value element baseValue : Element) : Element :=
  if value.isNum then
    match baseValue with
    | .int _ =>
      if element.isNum then
        .int (element.asNum + baseValue.asNum * value.asNum).toInt64
      else element
    | .float _ =>
      if element.isNum then
        .float (element.asNum + baseValue.asNum * value.asNum)
      else element
    | _ => element
  else element

namespace Modifier

/-- `modifier->process(element, baseValue)`. -/
def process (modifier : Modifier) (element baseValue : Element) : Element :=
  match modifier.type with
  | .default => DefaultModifier.process modifier.value element baseValue
  | .prepend => PrependModifier.process modifier.value element baseValue
  | .append => AppendModifier.process modifier.value element baseValue
  | .subtract => SubtractModifier.process modifier.value element baseValue
  | .addFraction => AddFractionModifier.process modifier.value element baseValue

/-- Adding has no effect. -/
def addsNothing (value element : Element) : Prop :=
  match element, value with
  | .none, value => value = .none
  | .int _, .int added => added = 0
  | .float old, .float added => old + added = old
  | .string _, .string added => added = ""
  | .map old, .map added => mapAssignAll old added = old
  | .list _, .list added => added = []
  | _, _ => True

/-- Only the order of sums differs. -/
def prependsNothing (value element : Element) : Prop :=
  match element, value with
  | .float old, .float added => added + old = old
  | element, value => addsNothing value element

/-- Subtracting has no effect. -/
def subtractsNothing (value element : Element) : Prop :=
  match value, element with
  | .int removed, .int _ => removed = 0
  | .float removed, .float old => old - removed = old
  | .map removed, .map old => mapEraseAll old removed = old
  | .list removed, .list old => listEraseAll old removed = old
  | .int _, .none => False
  | .float _, .none => False
  | .string _, .none => False
  | .map _, .none => False
  | .list _, .none => False
  | _, _ => True

/-- The fraction of the value is lost, or none. -/
def addsNoFraction (value element : Element) : Prop :=
  match element with
  | .int old =>
    value.isNum = true → (old.toFloat + old.toFloat * value.asNum).toInt64 = old
  | .float old => value.isNum = true → old + old * value.asNum = old
  | _ => True

/-- The modifier leaves this value as it is. -/
def Neutral (modifier : Modifier) (element : Element) : Prop :=
  match modifier.type with
  | .default => modifier.value = element
  | .prepend => prependsNothing modifier.value element
  | .append => addsNothing modifier.value element
  | .subtract => subtractsNothing modifier.value element
  | .addFraction => addsNoFraction modifier.value element

variable (value element : Element)

theorem process_append_eq_self_iff :
    AppendModifier.process value element element = element ↔ addsNothing value element := by
  cases element <;> cases value <;> simp [AppendModifier.process, addsNothing]

theorem process_prepend_eq_self_iff :
    PrependModifier.process value element element = element ↔ prependsNothing value element := by
  cases element <;> cases value <;> simp [PrependModifier.process, prependsNothing, addsNothing]

private theorem int64_sub_eq_self (old removed : Int64) : old - removed = old ↔ removed = 0 := by
  rw [Int64.sub_eq_iff_eq_add, eq_comm, Int64.add_eq_left]

theorem process_subtract_eq_self_iff :
    SubtractModifier.process value element element = element ↔
      subtractsNothing value element := by
  cases value <;> cases element <;> simp
    [SubtractModifier.process, subtractsNothing, int64_sub_eq_self]

theorem process_addFraction_eq_self_iff :
    AddFractionModifier.process value element element = element ↔
      addsNoFraction value element := by
  have intIsNum : ∀ old, (Element.int old).isNum = true := fun _ => rfl
  have floatIsNum : ∀ old, (Element.float old).isNum = true := fun _ => rfl
  by_cases number : value.isNum = true <;> cases element <;>
    simp [AddFractionModifier.process, addsNoFraction, number, intIsNum, floatIsNum, Element.asNum]

theorem process_eq_self_iff (modifier : Modifier) (element : Element) :
    modifier.process element element = element ↔ modifier.Neutral element := by
  cases modifier with
  | mk type value =>
    cases type with
    | default => exact Iff.rfl
    | prepend => exact process_prepend_eq_self_iff value element
    | append => exact process_append_eq_self_iff value element
    | subtract => exact process_subtract_eq_self_iff value element
    | addFraction => exact process_addFraction_eq_self_iff value element

end Modifier

end Cyphesis.Rules
