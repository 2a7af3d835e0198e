import Cyphesis.Tools.References

/-!
# Entities of an archetype

`ArchetypeFactory` creates an entity for a definition, and then those in it. Attributes that refer
to others are held back, if the value itself, or the first one in it, and so on, is a reference. The
position that an entity without one is given is left out.
-/

namespace Cyphesis.Server

open Cyphesis.Atlas List
open Cyphesis.Tools

/-- An `EntityCreation`: type, attributes, contents. -/
structure EntityDefinition where
  parent : String
  attributes : List (String × Element)
  contains : List String

/-- An entity that was created for an entry. -/
structure CreatedEntity where
  entry : String
  id : Nat
  location : Option Nat

inductive CreationFailure where
  | refused
  | outOfFuel

namespace ArchetypeFactory

/-- The loops return at the first one. -/
def isEntityRefAttribute : Element → Bool
  | .map [] => false
  | .map ((key, value) :: rest) =>
    (((key, value) :: rest).any fun entry => (reference? entry.1 entry.2).isSome) ||
      isEntityRefAttribute value
  | .list [] => false
  | .list (item :: _) => isEntityRefAttribute item
  | _ => false

/-- The reference is among the created entities. -/
def isResolved (createdId : String → Option String) (entries : List (String × Element)) : Bool :=
  entries.any fun entry => ((reference? entry.1 entry.2).bind createdId).isSome

/-- Replace the identifier in a reference. -/
def resolveHere (createdId : String → Option String) (entry : String × Element) :
    String × Element :=
  match reference? entry.1 entry.2 with
  | some id => (entry.1, .string ((createdId id).getD id))
  | none => entry

mutual

/-- A map that refers is left at once. -/
def resolveEntityReference (createdId : String → Option String) : Element → Element
  | .map entries =>
    if isResolved createdId entries then .map (entries.map (resolveHere createdId))
    else .map (resolveEntries createdId entries)
  | .list items => .list (resolveItems createdId items)
  | .none => .none
  | .int value => .int value
  | .float value => .float value
  | .ptr address => .ptr address
  | .string value => .string value

def resolveEntries (createdId : String → Option String) :
    List (String × Element) → List (String × Element)
  | [] => []
  | (key, value) :: rest =>
    (key, resolveEntityReference createdId value) :: resolveEntries createdId rest

def resolveItems (createdId : String → Option String) : List Element → List Element
  | [] => []
  | item :: rest => resolveEntityReference createdId item :: resolveItems createdId rest

end

/-- Loop over the contained entities. -/
def createAll (create : String → Nat → Except CreationFailure (List CreatedEntity × Nat)) :
    List String → Nat → Except CreationFailure (List CreatedEntity × Nat)
  | [], nextId => .ok ([], nextId)
  | child :: rest, nextId =>
    match create child nextId with
    | .error failure => .error failure
    | .ok (first, nextId) =>
      match createAll create rest nextId with
      | .error failure => .error failure
      | .ok (others, nextId) => .ok (first ++ others, nextId)

/-- `EntityBuilder::newChildEntity`: from a type, attributes, the id and the next id, the next id
after it. -/
abbrev Builder := String → List (String × Element) → Nat → Nat → Except CreationFailure Nat

/-- Attributes that are not held back. -/
def cleansed (definition : EntityDefinition) : List (String × Element) :=
  definition.attributes.filter fun attr => !isEntityRefAttribute attr.2

/-- Entities created for an entry, in order. -/
def createEntity (newChildEntity : Builder) (entities : List (String × EntityDefinition)) :
    Nat → Nat → Option Nat → String → Nat → Except CreationFailure (List CreatedEntity × Nat)
  | 0, _, _, _, _ => .error .outOfFuel
  | fuel + 1, id, location, entry, nextId =>
    match entities.lookup entry with
    | none => .error .refused
    | some definition =>
      match newChildEntity definition.parent (cleansed definition) id nextId with
      | .error failure => .error failure
      | .ok nextId =>
        let create (child : String) (nextId : Nat) :=
          createEntity newChildEntity entities fuel nextId (some id) child (nextId + 1)
        match createAll create definition.contains nextId with
        | .error failure => .error failure
        | .ok (below, nextId) => .ok (⟨entry, id, location⟩ :: below, nextId)

variable (made : List CreatedEntity) (entry : String)

/-- What was created last for an entry. -/
def createdEntity : Option CreatedEntity :=
  made.reverse.find? fun entity => entity.entry = entry

def createdId : Option String :=
  (createdEntity made entry).map fun entity => toString entity.id

variable (entities : List (String × EntityDefinition))

/-- What an attribute is defined as. -/
def definedAs (entity : CreatedEntity) (name : String) : Option Element :=
  (entities.lookup entity.entry).bind fun definition => definition.attributes.lookup name

/-- What was held back is set last. -/
def attributeValue (made : List CreatedEntity)
    (entity : CreatedEntity) (name : String) : Option Element :=
  (definedAs entities entity name).bind fun value =>
    if isEntityRefAttribute value then
      if createdId made entity.entry = some (toString entity.id) then
        some (resolveEntityReference (createdId made) value)
      else none
    else some value

/-- A value is in another one, or is it. -/
inductive Within : Element → Element → Prop
  | refl (value : Element) : Within value value
  | entry {part : Element} {entry : String × Element} {entries : List (String × Element)}
      (isEntry : entry ∈ entries) (within : Within part entry.2) : Within part (.map entries)
  | item {part item : Element} {items : List Element} (isItem : item ∈ items)
      (within : Within part item) : Within part (.list items)

/-- The value with all references replaced, as the importer replaces them. -/
def replaced (createdId : String → Option String) (value : Element) : Element :=
  EntityImporterBase.resolveEntityReferences createdId value

/-- A reference has no other inside. -/
def NoneBeside (createdId : String → Option String) (value : Element) : Prop :=
  ∀ entries, Within (.map entries) value → isResolved createdId entries = true →
    ∀ entry ∈ entries, reference? entry.1 entry.2 = none → replaced createdId entry.2 = entry.2

section

variable {createdId : String → Option String}

variable (entries : List (String × Element))

theorem resolveEntries_eq_map :
    resolveEntries createdId entries =
      entries.map fun entry => (entry.1, resolveEntityReference createdId entry.2) := by
  induction entries with
  | nil => rfl
  | cons entry rest ih => rw [resolveEntries, ih, map_cons]

variable (items : List Element)

theorem resolveItems_eq_map :
    resolveItems createdId items = items.map (resolveEntityReference createdId) := by
  induction items with
  | nil => rfl
  | cons item rest ih => rw [resolveItems, ih, map_cons]

theorem replaced_map : replaced createdId (.map entries) =
    .map (entries.map (EntityImporterBase.resolveEntry createdId)) := by
  rw [replaced, EntityImporterBase.resolveEntityReferences,
    EntityImporterBase.resolveEntries_eq_map]

theorem replaced_list :
    replaced createdId (.list items) = .list (items.map (replaced createdId)) := by
  rw [replaced, EntityImporterBase.resolveEntityReferences, EntityImporterBase.resolveItems_eq_map]
  rfl

theorem resolveEntry_of_none {entry : String × Element}
    (notReference : reference? entry.1 entry.2 = none) :
    EntityImporterBase.resolveEntry createdId entry = (entry.1, replaced createdId entry.2) := by
  simp only [EntityImporterBase.resolveEntry, notReference]
  rfl

theorem replaced_eq_of_within {part value : Element} (within : Within part value)
    (same : replaced createdId value = value) : replaced createdId part = part := by
  induction within with
  | refl => exact same
  | entry isEntry within ih =>
    rename_i entry entries
    apply ih
    rw [replaced_map, Element.map.injEq] at same
    have here := List.map_inj_left.mp (same.trans (map_id entries).symm) entry isEntry
    cases isReference : reference? entry.1 entry.2 with
    | some id =>
      rw [eq_of_reference? isReference]
      rfl
    | none =>
      rw [resolveEntry_of_none isReference] at here
      exact congrArg Prod.snd here
  | item isItem within ih =>
    rename_i item items
    apply ih
    rw [replaced_list, Element.list.injEq] at same
    exact List.map_inj_left.mp (same.trans (map_id items).symm) item isItem

theorem noneBeside_list : NoneBeside createdId (.list items) ↔
    ∀ item ∈ items, NoneBeside createdId item := by
  constructor
  · intro all item isItem entries within
    exact all entries (.item isItem within)
  · intro each entries within
    cases within with
    | item isItem within => exact each _ isItem entries within

theorem noneBeside_map : NoneBeside createdId (.map entries) ↔
    (isResolved createdId entries = true → ∀ entry ∈ entries,
      reference? entry.1 entry.2 = none → replaced createdId entry.2 = entry.2) ∧
      ∀ entry ∈ entries, NoneBeside createdId entry.2 := by
  constructor
  · intro all
    exact ⟨all entries (.refl _), fun entry isEntry others within =>
      all others (.entry isEntry within)⟩
  · rintro ⟨here, inside⟩ others within
    cases within with
    | refl => exact here
    | entry isEntry within => exact inside _ isEntry others within

theorem noneBeside_of_replaced_eq {value : Element} (same : replaced createdId value = value) :
    NoneBeside createdId value := by
  intro entries within _ entry isEntry _
  exact replaced_eq_of_within (.entry isEntry (.refl _)) (replaced_eq_of_within within same)

/-- They agree unless maps are left early. -/
theorem resolveEntityReference_eq_iff (value : Element) :
    resolveEntityReference createdId value = replaced createdId value ↔
      NoneBeside createdId value := by
  induction value using element_induct with
  | map entries ih =>
    rw [resolveEntityReference, replaced_map, noneBeside_map]
    split
    next found =>
      rw [Element.map.injEq, map_inj_left]
      constructor
      · intro same
        have others : ∀ entry ∈ entries, reference? entry.1 entry.2 = none →
            replaced createdId entry.2 = entry.2 := by
          intro entry isEntry notReference
          have here := same entry isEntry
          rw [resolveEntry_of_none notReference] at here
          simp only [resolveHere, notReference] at here
          exact (congrArg Prod.snd here).symm
        refine ⟨fun _ => others, fun entry isEntry => ?_⟩
        apply noneBeside_of_replaced_eq
        cases isReference : reference? entry.1 entry.2 with
        | some id =>
          rw [eq_of_reference? isReference]
          rfl
        | none => exact others entry isEntry isReference
      · rintro ⟨others, _⟩ entry isEntry
        cases isReference : reference? entry.1 entry.2 with
        | some id => simp only [resolveHere, EntityImporterBase.resolveEntry, isReference]
        | none =>
          rw [resolveEntry_of_none isReference, others found entry isEntry isReference]
          simp only [resolveHere, isReference]
    next missing =>
      rw [resolveEntries_eq_map, Element.map.injEq, map_inj_left]
      have each : ∀ entry ∈ entries,
          (entry.1, resolveEntityReference createdId entry.2) =
            EntityImporterBase.resolveEntry createdId entry ↔ NoneBeside createdId entry.2 := by
        intro entry isEntry
        rw [← ih entry isEntry]
        cases isReference : reference? entry.1 entry.2 with
        | some id =>
          have unknown : createdId id = none := by
            have absent := List.any_eq_false.mp (Bool.eq_false_iff.mpr missing) entry isEntry
            simpa [isReference] using absent
          have isString := eq_of_reference? isReference
          have kept : EntityImporterBase.resolveEntry createdId entry = entry := by
            simp only [EntityImporterBase.resolveEntry, isReference, unknown, Option.getD_none,
              ← isString]
          have plain : resolveEntityReference createdId entry.2 = entry.2 := by
            rw [isString]
            rfl
          have same : replaced createdId entry.2 = entry.2 := by
            rw [isString]
            rfl
          rw [kept, plain, same]
          exact ⟨fun _ => rfl, fun _ => rfl⟩
        | none => rw [resolveEntry_of_none isReference, Prod.mk.injEq, eq_self, true_and]
      constructor
      · intro same
        exact ⟨fun found => absurd found missing,
          fun entry isEntry => (each entry isEntry).mp (same entry isEntry)⟩
      · rintro ⟨_, inside⟩ entry isEntry
        exact (each entry isEntry).mpr (inside entry isEntry)
  | list items ih =>
    rw [resolveEntityReference, replaced_list, noneBeside_list, resolveItems_eq_map,
      Element.list.injEq, map_inj_left]
    exact forall₂_congr ih
  | none => exact ⟨fun _ => noneBeside_of_replaced_eq rfl, fun _ => rfl⟩
  | int value => exact ⟨fun _ => noneBeside_of_replaced_eq rfl, fun _ => rfl⟩
  | float value => exact ⟨fun _ => noneBeside_of_replaced_eq rfl, fun _ => rfl⟩
  | ptr address => exact ⟨fun _ => noneBeside_of_replaced_eq rfl, fun _ => rfl⟩
  | string value => exact ⟨fun _ => noneBeside_of_replaced_eq rfl, fun _ => rfl⟩

end

/-- It is held back, or is as it should be. -/
def Restorable (made : List CreatedEntity) (entity : CreatedEntity) (value : Element) : Prop :=
  if isEntityRefAttribute value then
    createdId made entity.entry = some (toString entity.id) ∧ NoneBeside (createdId made) value
  else replaced (createdId made) value = value

theorem attributeValue_eq_iff {entities : List (String × EntityDefinition)}
    {made : List CreatedEntity} {entity : CreatedEntity} {name : String} {value : Element}
    (isDefined : definedAs entities entity name = some value) :
    attributeValue entities made entity name = some (replaced (createdId made) value) ↔
      Restorable made entity value := by
  rw [attributeValue, isDefined, Option.bind_some, Restorable]
  split
  · by_cases isLast : createdId made entity.entry = some (toString entity.id)
    · rw [if_pos isLast, Option.some.injEq, resolveEntityReference_eq_iff]
      exact ⟨fun noneBeside => ⟨isLast, noneBeside⟩, And.right⟩
    · rw [if_neg isLast]
      exact ⟨fun same => (nomatch same), fun both => absurd both.1 isLast⟩
  · rw [Option.some.injEq, eq_comm]

/-- The references in an attribute are replaced just if the first value in it leads to them all, or
there are none. -/
theorem references_replaced_iff (newChildEntity : Builder)
    (entities : List (String × EntityDefinition)) {fuel id nextId next : Nat} {entry : String}
    {made : List CreatedEntity}
    (_created : createEntity newChildEntity entities fuel id none entry nextId = .ok (made, next)) :
    (∀ entity ∈ made, ∀ name value, definedAs entities entity name = some value →
      attributeValue entities made entity name = some (replaced (createdId made) value)) ↔
      ∀ entity ∈ made, ∀ name value, definedAs entities entity name = some value →
        Restorable made entity value := by
  apply forall₂_congr
  intro entity isMade
  exact forall₃_congr fun name value isDefined => attributeValue_eq_iff isDefined

/-- A door whose second entry refers to its key. -/
def doorAndKey : List (String × EntityDefinition) :=
  [("door", ⟨"door", [("lock", .map [("colour", .string "red"),
      ("key", .map [("$eid", .string "key")])])], ["key"]⟩),
    ("key", ⟨"key", [], []⟩)]

def doorAndKeyMade : List CreatedEntity :=
  [⟨"door", 7, none⟩, ⟨"key", 8, some 7⟩]

theorem references_replaced_iff_door :
    (∀ entity ∈ doorAndKeyMade, ∀ name value, definedAs doorAndKey entity name = some value →
      attributeValue doorAndKey doorAndKeyMade entity name =
        some (replaced (createdId doorAndKeyMade) value)) ↔
      ∀ entity ∈ doorAndKeyMade, ∀ name value, definedAs doorAndKey entity name = some value →
        Restorable doorAndKeyMade entity value :=
  references_replaced_iff (fun _ _ _ next => .ok next) doorAndKey
    (rfl : createEntity (fun _ _ _ next => .ok next) doorAndKey 2 7 none "door" 8 =
      .ok (doorAndKeyMade, 9))

/-- It is not found, and stays. -/
theorem door_reference_not_replaced :
    createEntity (fun _ _ _ next => .ok next) doorAndKey 2 7 none "door" 8 =
        .ok (doorAndKeyMade, 9) ∧
      ¬ ∀ entity ∈ doorAndKeyMade, ∀ name value, definedAs doorAndKey entity name = some value →
        attributeValue doorAndKey doorAndKeyMade entity name =
          some (replaced (createdId doorAndKeyMade) value) := by
  refine ⟨rfl, fun all => ?_⟩
  have here : some (Element.map [("colour", .string "red"),
      ("key", .map [("$eid", .string "key")])]) =
      some (.map [("colour", .string "red"), ("key", .map [("$eid", .string "8")])]) :=
    all ⟨"door", 7, none⟩ mem_cons_self "lock" _ rfl
  simp at here

end ArchetypeFactory

end Cyphesis.Server
