import Cyphesis.Foundation.Forest
import Cyphesis.Server.ArchetypeFactory
import Mathlib.Data.List.Pairwise

/-!
# Trees of an archetype

The top entity of an archetype is the only entry that no other one contains.
-/

namespace Cyphesis.Server

open Cyphesis.Atlas List
open Cyphesis.Foundation

/-- Entries by their identifiers. -/
abbrev EntityDefinitions := List (String × EntityDefinition)

namespace ArchetypeFactory

/-- What an entry contains. -/
def containedIn (entities : EntityDefinitions) (entry : String) : List String :=
  (entities.lookup entry).elim [] EntityDefinition.contains

/-- What all entries contain. -/
def listed (entities : EntityDefinitions) : List String :=
  (entities.map Prod.fst).flatMap (containedIn entities)

/-- The only one not contained. -/
def topEntity (entities : EntityDefinitions) : Option String :=
  match (entities.map Prod.fst).filter (· ∉ listed entities) with
  | [top] => some top
  | _ => none

/-- The top entity takes the attributes of the request. -/
def supplied (supply : EntityDefinition → EntityDefinition) (top : String)
    (entities : EntityDefinitions) : EntityDefinitions :=
  entities.map fun entry => if entry.1 = top then (entry.1, supply entry.2) else entry

/-- `ArchetypeFactory::newEntity`, for the entries and what the attributes bring to the top. -/
def newEntity (newChildEntity : Builder) (supply : EntityDefinition → EntityDefinition)
    (entities : EntityDefinitions) (fuel id nextId : Nat) :
    Except CreationFailure (List CreatedEntity × Nat) :=
  match topEntity entities with
  | none => .error .refused
  | some top => createEntity newChildEntity (supplied supply top entities) fuel id none top nextId

/-- A factory of the builder. Attributes may bring entries, and go to the top entity. -/
inductive EntityKit where
  | entity (builds : List (String × Element) → Bool)
  | archetype (definitions : List (String × Element) → EntityDefinitions)
      (supply : List (String × Element) → EntityDefinition → EntityDefinition)

/-- The factory of a type may be an archetype, which builds its own entries. -/
def newChildEntity (entityFactories : String → Option EntityKit) : Nat → Builder
  | 0, _, _, _, _ => .error .outOfFuel
  | fuel + 1, type, attributes, id, nextId =>
    match entityFactories type with
    | none => .error .refused
    | some (.entity builds) => if builds attributes then .ok nextId else .error .refused
    | some (.archetype definitions supply) =>
      (newEntity (newChildEntity entityFactories fuel) (supply attributes) (definitions attributes)
        fuel id nextId).map Prod.snd

/-- A tree with one entity for each entry. -/
structure IsTree (entities : EntityDefinitions) (top : String) (made : List CreatedEntity) :
    Prop where
  once : ∀ entry ∈ entities.map Prod.fst, (made.map CreatedEntity.entry).count entry = 1
  placed : (made.map fun entity => (entity.entry, entity.location)).Perm
    ((top, none) :: made.flatMap fun entity =>
      (containedIn entities entity.entry).map fun child => (child, some entity.id))

/-- Entries that are reached from the top. -/
inductive Below (entities : EntityDefinitions) (top : String) : String → Prop
  | top : Below entities top top
  | child {entry child : String} (below : Below entities top entry)
      (isChild : child ∈ containedIn entities entry) : Below entities top child

/-- Building by a factory, or creating an entry of some definitions. -/
inductive Call where
  | build (type : String) (attributes : List (String × Element))
  | create (entities : EntityDefinitions) (entry : String)

section

variable (entityFactories : String → Option EntityKit)

/-- All that is reached can be made, and is not reached from itself. -/
inductive Completes : Call → Prop
  | entity {type : String} {attributes : List (String × Element)}
      {builds : List (String × Element) → Bool}
      (isFactory : entityFactories type = some (.entity builds))
      (isBuilt : builds attributes = true) : Completes (.build type attributes)
  | archetype {type top : String} {attributes : List (String × Element)}
      {definitions : List (String × Element) → EntityDefinitions}
      {supply : List (String × Element) → EntityDefinition → EntityDefinition}
      (isFactory : entityFactories type = some (.archetype definitions supply))
      (isTop : topEntity (definitions attributes) = some top)
      (made : Completes (.create (supplied (supply attributes) top (definitions attributes)) top)) :
      Completes (.build type attributes)
  | entry {entities : EntityDefinitions} {entry : String} {definition : EntityDefinition}
      (isDefined : entities.lookup entry = some definition)
      (isBuilt : Completes (.build definition.parent (cleansed definition)))
      (children : ∀ child ∈ definition.contains, Completes (.create entities child)) :
      Completes (.create entities entry)

/-- What cannot be made is met, in order, before anything that is reached from itself. -/
inductive Fails : Call → Prop
  | unknown {type : String} {attributes : List (String × Element)}
      (noFactory : entityFactories type = none) : Fails (.build type attributes)
  | entity {type : String} {attributes : List (String × Element)}
      {builds : List (String × Element) → Bool}
      (isFactory : entityFactories type = some (.entity builds))
      (notBuilt : builds attributes = false) : Fails (.build type attributes)
  | topless {type : String} {attributes : List (String × Element)}
      {definitions : List (String × Element) → EntityDefinitions}
      {supply : List (String × Element) → EntityDefinition → EntityDefinition}
      (isFactory : entityFactories type = some (.archetype definitions supply))
      (noTop : topEntity (definitions attributes) = none) : Fails (.build type attributes)
  | archetype {type top : String} {attributes : List (String × Element)}
      {definitions : List (String × Element) → EntityDefinitions}
      {supply : List (String × Element) → EntityDefinition → EntityDefinition}
      (isFactory : entityFactories type = some (.archetype definitions supply))
      (isTop : topEntity (definitions attributes) = some top)
      (fails : Fails (.create (supplied (supply attributes) top (definitions attributes)) top)) :
      Fails (.build type attributes)
  | missing {entities : EntityDefinitions} {entry : String}
      (notDefined : entities.lookup entry = none) : Fails (.create entities entry)
  | unbuilt {entities : EntityDefinitions} {entry : String} {definition : EntityDefinition}
      (isDefined : entities.lookup entry = some definition)
      (fails : Fails (.build definition.parent (cleansed definition))) :
      Fails (.create entities entry)
  | child {entities : EntityDefinitions} {entry child : String} {definition : EntityDefinition}
      {before after : List String} (isDefined : entities.lookup entry = some definition)
      (isBuilt : Completes entityFactories (.build definition.parent (cleansed definition)))
      (split : definition.contains = before ++ child :: after)
      (earlier : ∀ other ∈ before, Completes entityFactories (.create entities other))
      (fails : Fails (.create entities child)) : Fails (.create entities entry)

/-- What an outcome says of a call. -/
def Reports {α : Type} (call : Call) : Except CreationFailure α → Prop
  | .ok _ => Completes entityFactories call
  | .error .refused => Fails entityFactories call
  | .error .outOfFuel => True

/-- With this much fuel, or more, a call succeeds. -/
def Succeeds (bound : Nat) : Call → Prop
  | .build type attributes => ∀ fuel ≥ bound, ∀ id nextId,
      ∃ next, newChildEntity entityFactories fuel type attributes id nextId = .ok next
  | .create entities entry => ∀ fuel ≥ bound, ∀ depth ≥ bound, ∀ id location nextId,
      ∃ made, createEntity (newChildEntity entityFactories fuel) entities depth id location entry
        nextId = .ok made

/-- With this much fuel, or more, a call is refused. -/
def Refuses (bound : Nat) : Call → Prop
  | .build type attributes => ∀ fuel ≥ bound, ∀ id nextId,
      newChildEntity entityFactories fuel type attributes id nextId = .error .refused
  | .create entities entry => ∀ fuel ≥ bound, ∀ depth ≥ bound, ∀ id location nextId,
      createEntity (newChildEntity entityFactories fuel) entities depth id location entry nextId =
        .error .refused

end

/-! ## The walk -/

section

variable {create : String → Nat → Except CreationFailure (List CreatedEntity × Nat)}

variable (create) in
/-- All are made, or one fails. -/
theorem createAll_cases (children : List String) (nextId : Nat) :
    match createAll create children nextId with
    | .ok _ => ∀ child ∈ children, ∃ next made, create child next = .ok made
    | .error failure => ∃ before child after, children = before ++ child :: after ∧
        (∀ other ∈ before, ∃ next made, create other next = .ok made) ∧
        ∃ next, create child next = .error failure := by
  induction children generalizing nextId with
  | nil => exact fun child isChild => nomatch isChild
  | cons child rest ih =>
    rw [createAll]
    cases first : create child nextId with
    | error failure => exact ⟨[], child, rest, rfl, by simp, nextId, first⟩
    | ok made =>
      have others := ih made.2
      dsimp only
      cases later : createAll create rest made.2 with
      | ok _ =>
        rw [later] at others
        intro other isChild
        rcases List.mem_cons.mp isChild with rfl | isRest
        · exact ⟨nextId, made, first⟩
        · exact others other isRest
      | error failure =>
        rw [later] at others
        rcases others with ⟨before, last, after, rfl, earlier, fails⟩
        refine ⟨child :: before, last, after, rfl, ?_, fails⟩
        intro other isBefore
        rcases List.mem_cons.mp isBefore with rfl | isRest
        · exact ⟨nextId, made, first⟩
        · exact earlier other isRest

theorem createAll_ok {children : List String}
    (each : ∀ child ∈ children, ∀ next, ∃ made, create child next = .ok made) (nextId : Nat) :
    ∃ made, createAll create children nextId = .ok made := by
  have outcome := createAll_cases create children nextId
  cases result : createAll create children nextId with
  | ok made => exact ⟨made, rfl⟩
  | error failure =>
    rw [result] at outcome
    rcases outcome with ⟨before, child, after, rfl, _, next, fails⟩
    rcases each child (by simp) next with ⟨made, isMade⟩
    rw [fails] at isMade
    cases isMade

theorem createAll_refused {before after : List String} {child : String}
    (earlier : ∀ other ∈ before, ∀ next, ∃ made, create other next = .ok made)
    (refused : ∀ next, create child next = .error .refused) (nextId : Nat) :
    createAll create (before ++ child :: after) nextId = .error .refused := by
  induction before generalizing nextId with
  | nil => rw [nil_append, createAll, refused]
  | cons first rest ih =>
    rcases earlier first mem_cons_self nextId with ⟨made, isMade⟩
    rw [cons_append, createAll, isMade]
    dsimp only
    rw [ih fun other isRest => earlier other (mem_cons_of_mem _ isRest)]

end

section

variable {entityFactories : String → Option EntityKit} {build : Builder}
  {entities : EntityDefinitions} {entry top : String} {definition : EntityDefinition}
  {fuel id nextId : Nat} {location : Option Nat}

theorem createEntity_of_undefined (notDefined : entities.lookup entry = none) :
    createEntity build entities (fuel + 1) id location entry nextId = .error .refused := by
  simp only [createEntity, notDefined]

theorem createEntity_of_lookup (isDefined : entities.lookup entry = some definition) :
    createEntity build entities (fuel + 1) id location entry nextId =
      (build definition.parent (cleansed definition) id nextId).bind fun nextId =>
        (createAll (fun child nextId =>
          createEntity build entities fuel nextId (some id) child (nextId + 1))
          definition.contains nextId).map fun below => (⟨entry, id, location⟩ :: below.1, below.2)
      := by
  simp only [createEntity, isDefined]
  cases build definition.parent (cleansed definition) id nextId with
  | error failure => rfl
  | ok next =>
    simp only [Except.bind]
    split
    next isFailure => rw [isFailure]; rfl
    next isMade => rw [isMade]; rfl

theorem Succeeds.mono {low high : Nat} {call : Call} (le : low ≤ high)
    (succeeds : Succeeds entityFactories low call) : Succeeds entityFactories high call := by
  cases call with
  | build type attributes => exact fun fuel enough => succeeds fuel (le.trans enough)
  | create entities entry =>
    exact fun fuel enough depth deep =>
      succeeds fuel (le.trans enough) depth (le.trans deep)

/-- One bound that is enough for finitely many entries. -/
theorem exists_bound {children : List String} {good : Nat → String → Prop}
    (mono : ∀ low high child, low ≤ high → good low child → good high child)
    (each : ∀ child ∈ children, ∃ bound, good bound child) :
    ∃ bound, ∀ child ∈ children, good bound child := by
  induction children with
  | nil => exact ⟨0, fun child isChild => nomatch isChild⟩
  | cons first rest ih =>
    rcases each first mem_cons_self with ⟨here, isHere⟩
    rcases ih fun child isRest => each child (mem_cons_of_mem _ isRest) with ⟨later, isLater⟩
    refine ⟨max here later, fun child isChild => ?_⟩
    rcases List.mem_cons.mp isChild with rfl | isRest
    · exact mono _ _ _ (le_max_left ..) isHere
    · exact mono _ _ _ (le_max_right ..) (isLater child isRest)

theorem exists_succeeds {children : List String}
    (each : ∀ child ∈ children,
      ∃ bound, Succeeds entityFactories bound (.create entities child)) :
    ∃ bound, ∀ child ∈ children, Succeeds entityFactories bound (.create entities child) :=
  exists_bound (fun _ _ _ le succeeds => succeeds.mono le) each

theorem Completes.succeeds {call : Call} (completes : Completes entityFactories call) :
    ∃ bound, Succeeds entityFactories bound call := by
  induction completes with
  | entity isFactory isBuilt =>
    refine ⟨1, fun fuel enough id nextId => ⟨nextId, ?_⟩⟩
    obtain ⟨fuel, rfl⟩ := Nat.exists_eq_add_of_le' enough
    simp only [newChildEntity, isFactory, isBuilt, if_true]
  | archetype isFactory isTop _ ih =>
    rcases ih with ⟨bound, created⟩
    refine ⟨bound + 1, fun fuel enough id nextId => ?_⟩
    obtain ⟨fuel, rfl⟩ := Nat.exists_eq_add_of_le' enough
    have enough : bound ≤ fuel + bound := Nat.le_add_left ..
    rcases created _ enough _ enough id none nextId with ⟨made, isMade⟩
    refine ⟨made.2, ?_⟩
    rw [← Nat.add_assoc]
    simp only [newChildEntity, isFactory, newEntity, isTop, isMade, Except.map]
  | entry isDefined _ _ built children =>
    rcases built with ⟨first, built⟩
    rcases exists_succeeds children with ⟨later, children⟩
    refine ⟨max first later + 1, fun fuel enough depth deep id location nextId => ?_⟩
    obtain ⟨depth, rfl⟩ := Nat.exists_eq_add_of_le' deep
    have below : max first later ≤ fuel := Nat.le_of_succ_le enough
    rcases built fuel (le_of_max_le_left below) id nextId with ⟨next, isBuilt⟩
    rw [← Nat.add_assoc, createEntity_of_lookup isDefined, isBuilt]
    rcases createAll_ok (fun child isChild next => children child isChild fuel
      (le_of_max_le_right below) (depth + max first later)
      ((le_max_right ..).trans (Nat.le_add_left ..)) next (some id) (next + 1)) next
      with ⟨made, isMade⟩
    exact ⟨_, congrArg (Except.map _) isMade⟩

theorem Fails.refuses {call : Call} (fails : Fails entityFactories call) :
    ∃ bound, Refuses entityFactories bound call := by
  induction fails with
  | unknown noFactory =>
    refine ⟨1, fun fuel enough id nextId => ?_⟩
    obtain ⟨fuel, rfl⟩ := Nat.exists_eq_add_of_le' enough
    simp only [newChildEntity, noFactory]
  | entity isFactory notBuilt =>
    refine ⟨1, fun fuel enough id nextId => ?_⟩
    obtain ⟨fuel, rfl⟩ := Nat.exists_eq_add_of_le' enough
    simp only [newChildEntity, isFactory, notBuilt, Bool.false_eq_true, if_false]
  | topless isFactory noTop =>
    refine ⟨1, fun fuel enough id nextId => ?_⟩
    obtain ⟨fuel, rfl⟩ := Nat.exists_eq_add_of_le' enough
    simp only [newChildEntity, isFactory, newEntity, noTop, Except.map]
  | archetype isFactory isTop _ ih =>
    rcases ih with ⟨bound, refused⟩
    refine ⟨bound + 1, fun fuel enough id nextId => ?_⟩
    obtain ⟨fuel, rfl⟩ := Nat.exists_eq_add_of_le' enough
    have enough : bound ≤ fuel + bound := Nat.le_add_left ..
    rw [← Nat.add_assoc]
    simp only [newChildEntity, isFactory, newEntity, isTop,
      refused _ enough _ enough id none nextId, Except.map]
  | missing notDefined =>
    refine ⟨1, fun fuel _ depth deep id location nextId => ?_⟩
    obtain ⟨depth, rfl⟩ := Nat.exists_eq_add_of_le' deep
    exact createEntity_of_undefined notDefined
  | unbuilt isDefined _ ih =>
    rcases ih with ⟨bound, refused⟩
    refine ⟨bound + 1, fun fuel enough depth deep id location nextId => ?_⟩
    obtain ⟨depth, rfl⟩ := Nat.exists_eq_add_of_le' deep
    rw [← Nat.add_assoc, createEntity_of_lookup isDefined,
      refused fuel (Nat.le_of_succ_le enough)]
    rfl
  | child isDefined isBuilt split earlier _ ih =>
    rcases isBuilt.succeeds with ⟨first, built⟩
    rcases exists_succeeds fun other isBefore => (earlier other isBefore).succeeds with
      ⟨before, others⟩
    rcases ih with ⟨later, refused⟩
    refine ⟨max first (max before later) + 1, fun fuel enough depth deep id location nextId => ?_⟩
    obtain ⟨depth, rfl⟩ := Nat.exists_eq_add_of_le' deep
    have below : first ≤ fuel ∧ before ≤ fuel ∧ later ≤ fuel := by omega
    rcases built fuel below.1 id nextId with ⟨next, isNext⟩
    rw [← Nat.add_assoc, createEntity_of_lookup isDefined, isNext, split]
    simp only [Except.bind]
    rw [createAll_refused]
    · rfl
    · intro other isBefore next
      exact others other isBefore fuel below.2.1 _ (by omega) next (some id) (next + 1)
    · exact fun next => refused fuel below.2.2 _ (by omega) next _ _

variable {child : String}

variable {made : List CreatedEntity}

end

/-- Every type is built by a factory of its own. -/
def plain : String → Option EntityKit := fun _ => some (.entity fun _ => true)

/-- The archetype `nest` has an entry that is of the archetype itself. -/
def nested : String → Option EntityKit := fun type =>
  if type = "nest" then some (.archetype (fun _ => [("egg", ⟨"nest", [], []⟩)]) fun _ => id)
  else plain type

def chest : EntityDefinitions := [("chest", ⟨"thing", [], ["key"]⟩), ("key", ⟨"thing", [], []⟩)]

end ArchetypeFactory

end Cyphesis.Server
