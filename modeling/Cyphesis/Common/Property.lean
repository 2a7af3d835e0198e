import Cyphesis.Foundation.Flags
import Cyphesis.Rules.Modifier
import Mathlib.Data.List.TakeWhile

/-!
# Properties and property names

`SoftProperty` stores any Atlas value; its `install`, `apply` and `remove` do nothing.
`PropertyUtil` reads a property name: its visibility, and a suffix such as `!append`.
-/

namespace Cyphesis.Common

open Cyphesis.Atlas
open Cyphesis.Foundation
open Cyphesis.Rules

/-- Data has been written to permanent store. -/
def propFlagPersistenceClean : BitVec 32 := 1#32 <<< 0

/-- Data should never be persisted. -/
def propFlagPersistenceEphem : BitVec 32 := 1#32 <<< 1

/-- Data has been stored initially. -/
def propFlagPersistenceSeen : BitVec 32 := 1#32 <<< 2

/-- Data should not be written to store. -/
def propFlagPersistenceMask : BitVec 32 :=
  propFlagPersistenceClean ||| propFlagPersistenceEphem

def propFlagVisibilityPrivate : BitVec 32 := 1#32 <<< 3

def propFlagVisibilityProtected : BitVec 32 := 1#32 <<< 4

/-- The property is not visible to everyone. -/
def propFlagVisibilityNonPublic : BitVec 32 :=
  propFlagVisibilityPrivate ||| propFlagVisibilityProtected

/-- Of a class, without instance. -/
def propFlagClass : BitVec 32 := 1#32 <<< 5

/-- Not yet broadcast. -/
def propFlagUnsent : BitVec 32 := 1#32 <<< 7

/-- Of an instance, never a default. -/
def propFlagInstance : BitVec 32 := 1#32 <<< 8

/-- No modifier affects it. -/
def propFlagModifiersNotAllowed : BitVec 32 := 1#32 <<< 9

namespace PropertyUtil

/-- `__` makes it private, `_` protected. -/
def flagsForPropertyName (name : String) : BitVec 32 :=
  match name.toList with
  | '_' :: '_' :: _ => propFlagVisibilityPrivate
  | '_' :: _ => propFlagVisibilityProtected
  | _ => 0

/-- Characters a property name may contain. -/
def isValidCharacter (character : Char) : Bool :=
  character.isAlphanum || character == '_' || character == '$' || character == '-'

/-- 1 to 32 letters, digits or `_`, `$`, `-`. -/
def isValidName (name : String) : Bool :=
  !name.toList.isEmpty && name.toList.length ≤ 32 && name.toList.all isValidCharacter

/-- Modification after the exclamation mark. -/
def modifierTypeOfSuffix (suffix : String) : Option ModifierType :=
  if suffix = "default" then some .default
  else if suffix = "append" then some .append
  else if suffix = "prepend" then some .prepend
  else if suffix = "subtract" then some .subtract
  else if suffix = "add-fraction" then some .addFraction
  else none

def parsePropertyModification (propertyName : String) : ModifierType × String :=
  match propertyName.toList.dropWhile (· != '!') with
  | [] => (.default, propertyName)
  | _ :: suffix =>
    match modifierTypeOfSuffix (String.ofList suffix) with
    | some type => (type, String.ofList (propertyName.toList.takeWhile (· != '!')))
    | none => (.default, propertyName)

theorem unmodified_of_isValidName {name : String} (valid : isValidName name = true) :
    ∀ character ∈ name.toList, (character != '!') = true := by
  intro character member
  simp only [isValidName, Bool.and_eq_true, List.all_eq_true] at valid
  have allowed := valid.2 character member
  rw [bne_iff_ne]
  rintro rfl
  revert allowed
  decide

theorem parsePropertyModification_of_isValidName {name : String}
    (valid : isValidName name = true) :
    parsePropertyModification name = (.default, name) := by
  have noSuffix : name.toList.dropWhile (· != '!') = [] :=
    List.dropWhile_eq_nil_iff.mpr (unmodified_of_isValidName valid)
  rw [parsePropertyModification, noSuffix]

example : parsePropertyModification "foo!append" = (.append, "foo") := by decide

end PropertyUtil

/-- `SoftProperty`: the flags and the value. -/
structure SoftProperty where
  flags : Flags
  data : Element

namespace SoftProperty

def get (property : SoftProperty) : Element :=
  property.data

def set (property : SoftProperty) (value : Element) : SoftProperty :=
  { property with data := value }

def addFlags (property : SoftProperty) (mask : BitVec 32) : SoftProperty :=
  { property with flags := property.flags.addFlags mask }

def removeFlags (property : SoftProperty) (mask : BitVec 32) : SoftProperty :=
  { property with flags := property.flags.removeFlags mask }

def hasFlags (property : SoftProperty) (mask : BitVec 32) : Bool :=
  property.flags.hasFlags mask

variable (property : SoftProperty)

@[simp]
theorem get_set (value : Element) : (property.set value).get = value :=
  rfl

variable (mask : BitVec 32)

@[simp]
theorem get_addFlags : (property.addFlags mask).get = property.get :=
  rfl

@[simp]
theorem flags_set (value : Element) : (property.set value).flags = property.flags :=
  rfl

@[simp]
theorem flags_addFlags : (property.addFlags mask).flags = property.flags.addFlags mask :=
  rfl

@[simp]
theorem flags_removeFlags : (property.removeFlags mask).flags = property.flags.removeFlags mask :=
  rfl

end SoftProperty

/-- A soft property with the flags of its name. -/
def addProperty (name : String) : SoftProperty :=
  { flags := Flags.empty.addFlags (PropertyUtil.flagsForPropertyName name), data := .none }

end Cyphesis.Common
