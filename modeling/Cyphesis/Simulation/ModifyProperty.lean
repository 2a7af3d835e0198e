import Cyphesis.Rules.ActiveModifiers

/-!
# Entries of modify properties

An entry of `modify` or `modify_self` lists modifiers. An evaluation of the entries puts those of
the active ones on an entity, and takes off those recorded before. What the constraints say is
given.
-/

namespace Cyphesis.Simulation

open Cyphesis.Rules

structure ModifyEntry where
  constraint : Option String
  modifiers : List (String × ModifierRef)
  observedProperties : List String

namespace ModifyEntry

/-- Without a constraint it applies. -/
def apply (entry : ModifyEntry) (matched : String → Bool) : Bool :=
  entry.constraint.all matched

/-- Order of the pairs of a set of modifiers. -/
def pairLe (first second : String × ModifierRef) : Bool :=
  decide (first.1 < second.1) ||
    (first.1 == second.1 && decide (first.2.address ≤ second.2.address))

variable (entries : List ModifyEntry)

/-- Modifiers of the entries that apply. -/
def activated (matched : String → Bool) : List (String × ModifierRef) :=
  ((entries.filter (·.apply matched)).flatMap modifiers).mergeSort pairLe

/-- One of the entries observes the property. -/
def observes (property : String) : Bool :=
  entries.any (·.observedProperties.contains property)

end ModifyEntry

namespace ModifiedParent

variable (entity : LocatedEntity)

/-- Only the address is compared. -/
def removeRecorded (pair : String × Nat) : LocatedEntity :=
  entity.removeModifier pair.1 { address := pair.2, object := .createModifier .default .none }

variable (affecting : Nat)

/-- Take off all of an affecting one. -/
def clear : LocatedEntity :=
  (entity.modifiersFrom affecting).foldl removeRecorded entity

def addFrom (entity : LocatedEntity) (modifier : String × ModifierRef) :
    LocatedEntity :=
  entity.addModifier modifier.1 modifier.2 affecting

/-- `checkIfActive`: active entries. -/
def settle (activatedModifiers : List (String × ModifierRef)) : LocatedEntity :=
  match entity.activeModifiers[affecting]? with
  | some modifiers =>
    let added := (activatedModifiers.filter fun modifier =>
      !modifiers.contains (LocatedEntity.recordedPair modifier)).foldl (addFrom affecting) entity
    (modifiers.filter fun pair =>
      !(activatedModifiers.map LocatedEntity.recordedPair).contains pair).foldl removeRecorded added
  | none => activatedModifiers.foldl (addFrom affecting) entity

end ModifiedParent

end Cyphesis.Simulation
