import Cyphesis.Atlas.Element
import Cyphesis.Foundation.Run
import Mathlib.Logic.Function.Basic

/-!
# Characters and the accounts that own them

An entity names its account in the property `__account`.
-/

namespace Cyphesis.Server

open Cyphesis.Atlas List Option
open Cyphesis.Foundation
open Function

/-- And who is told of a destruction. -/
structure Ownership where
  entities : List Nat
  account : Nat → Option String
  loaded : List String
  characters : String → List Nat
  destroyed : Nat → List String

/-- With defaults and own values. -/
inductive OwnershipEvent where
  | create (id : Nat) (default : Option String) (attributes : List Element)
  | restore (id : Nat) (default : Option String) (rows : List Element)
  | set (id : Nat) (value : Element)
  | destroy (id : Nat)

namespace Ownership

variable (persisted : String → Bool)

def initial : Ownership :=
  { entities := [], account := fun _ => none, loaded := [], characters := fun _ => [],
    destroyed := fun _ => [] }

/-- An unknown one is loaded. -/
def getAccountByName (server : Ownership) (name : String) : Ownership × Bool :=
  if name ∈ server.loaded then (server, true)
  else if persisted name then
    ({ server with
        loaded := name :: server.loaded
        characters := update server.characters name [] }, true)
  else (server, false)

def addCharacter (server : Ownership) (name : String) (id : Nat) : Ownership :=
  { server with
    characters := update server.characters name
      (if id ∈ server.characters name then server.characters name
        else id :: server.characters name)
    destroyed := update server.destroyed id (name :: server.destroyed id) }

def apply (server : Ownership) (id : Nat) (data : String) : Ownership :=
  if (getAccountByName persisted server data).2 then
    (getAccountByName persisted server data).1.addCharacter data id
  else (getAccountByName persisted server data).1

/-- `Property<std::string>::set`. -/
def setData (data : String) : Element → String
  | .string text => text
  | _ => data

/-- Those applied in a merge. -/
def mergedValues (data : String) : List Element → List String
  | [] => []
  | attr :: rest => setData data attr :: mergedValues (setData data attr) rest

variable (default : Option String)

/-- `initializeEntity`: attributes or defaults. -/
def createdValues (attributes : List Element) : List String :=
  if attributes.isEmpty then default.toList else mergedValues (default.getD "") attributes

/-- Its rows in `restorePropertiesRecursively`. -/
def rowValues (existing : Option String) : List Element → List String
  | [] => []
  | row :: rest =>
    if existing.map Element.string == some row then rowValues existing rest
    else
      setData (existing.getD "") row :: rowValues (some (setData (existing.getD "") row)) rest

def restoredValues (rows : List Element) : List String :=
  if (rowValues default rows).isEmpty then default.toList else rowValues default rows

/-- An event's entity, with its values. -/
def appliedValues (server : Ownership) : OwnershipEvent → Option (Nat × List String)
  | .create id default attributes =>
    if id ∈ server.entities then none else some (id, createdValues default attributes)
  | .restore id default rows =>
    if id ∈ server.entities then none else some (id, restoredValues default rows)
  | .set id value =>
    if id ∈ server.entities then some (id, [setData ((server.account id).getD "") value])
    else none
  | .destroy _ => none

/-- One after the other; the last stays. -/
def applyValues (server : Ownership) (id : Nat) (values : List String) : Ownership :=
  values.foldl (fun current data => current.apply persisted id data)
    { server with
      entities := if id ∈ server.entities then server.entities else id :: server.entities
      account := update server.account id (values.getLast?.or (server.account id)) }

/-- Connected accounts let go of it. -/
def destroy (server : Ownership) (id : Nat) : Ownership :=
  { server with
    entities := server.entities.filter (· ≠ id)
    account := update server.account id none
    characters := fun name =>
      if name ∈ server.destroyed id then (server.characters name).filter (· ≠ id)
      else server.characters name }

def perform (server : Ownership) (event : OwnershipEvent) : Ownership :=
  match event with
  | .destroy id => server.destroy id
  | _ =>
    match server.appliedValues event with
    | some (id, values) => server.applyValues persisted id values
    | none => server

/-- `Account::PossessOperation` without a key. -/
def possessesWithoutKey (server : Ownership) (name : String) (id : Nat) : Bool :=
  server.characters name |>.contains id

/-- Loaded ones are told of destruction. -/
structure WellConnected (server : Ownership) : Prop where
  unloaded : ∀ name, name ∉ server.loaded → server.characters name = []
  persisted : ∀ name ∈ server.loaded, persisted name = true
  connected : ∀ name, ∀ id ∈ server.characters name, name ∈ server.destroyed id

namespace WellConnected

variable {persisted} {server : Ownership}

theorem initial : WellConnected persisted initial :=
  ⟨fun _ _ => rfl, by simp [Ownership.initial], by simp [Ownership.initial]⟩

theorem getAccountByName (connected : WellConnected persisted server) (name : String) :
    WellConnected persisted (server.getAccountByName persisted name).1 ∧
      (server.getAccountByName persisted name).2 = persisted name ∧
      (server.getAccountByName persisted name).1.characters = server.characters ∧
      (server.getAccountByName persisted name).1.destroyed = server.destroyed ∧
      (persisted name = true → name ∈ (server.getAccountByName persisted name).1.loaded) := by
  unfold Ownership.getAccountByName
  split
  · next isLoaded =>
      exact ⟨connected, (connected.persisted name isLoaded).symm, rfl, rfl, fun _ => isLoaded⟩
  · next notLoaded =>
      split
      · next known =>
          have same : update server.characters name [] = server.characters := by
            rw [← connected.unloaded name notLoaded]
            exact update_eq_self name server.characters
          refine ⟨⟨?_, ?_, ?_⟩, known.symm, same, rfl, fun _ => mem_cons_self⟩
          · intro other notThere
            simp only [same]
            exact connected.unloaded other (fun member => notThere (mem_cons_of_mem _ member))
          · intro other member
            rcases List.mem_cons.mp member with rfl | old
            · exact known
            · exact connected.persisted other old
          · intro other id member
            simp only [same] at member
            exact connected.connected other id member
      · next unknown =>
          refine ⟨connected, by simpa using unknown, rfl, rfl, ?_⟩
          intro known
          exact absurd known unknown

theorem mem_addCharacter {name other : String} {id character : Nat} :
    character ∈ (server.addCharacter name id).characters other ↔
      character ∈ server.characters other ∨ (character = id ∧ other = name) := by
  by_cases same : other = name
  · subst same
    simp only [addCharacter, update_self]
    split
    · next member =>
        constructor
        · exact Or.inl
        · rintro (old | ⟨rfl, _⟩)
          · exact old
          · exact member
    · simp [or_comm]
  · simp [addCharacter, same]

section

variable (connected : WellConnected persisted server)

include connected

theorem addCharacter {name : String} (isLoaded : name ∈ server.loaded) (id : Nat) :
    WellConnected persisted (server.addCharacter name id) := by
  refine ⟨?_, connected.persisted, ?_⟩
  · intro other notLoaded
    have different : other ≠ name := fun same => notLoaded (same ▸ isLoaded)
    simp only [Ownership.addCharacter, update_of_ne different]
    exact connected.unloaded other notLoaded
  · intro other character member
    rcases mem_addCharacter.mp member with old | ⟨rfl, rfl⟩
    · have told := connected.connected other character old
      by_cases same : character = id
      · subst same
        simp [Ownership.addCharacter, told]
      · simpa [Ownership.addCharacter, update_of_ne same] using told
    · simp [Ownership.addCharacter]

theorem apply (id : Nat) (data : String) :
    WellConnected persisted (server.apply persisted id data) ∧
      ∀ name character, character ∈ (server.apply persisted id data).characters name ↔
        character ∈ server.characters name ∨
          (character = id ∧ name = data ∧ persisted data = true) := by
  obtain ⟨after, found, same, _, loads⟩ := connected.getAccountByName data
  unfold Ownership.apply
  simp only [found]
  split
  · next known =>
      refine ⟨after.addCharacter (loads known) id, ?_⟩
      intro name character
      rw [mem_addCharacter, same]
      simp [known]
  · next unknown =>
      refine ⟨after, ?_⟩
      intro name character
      simp [same, unknown]

theorem foldl_apply (id : Nat) (values : List String) :
    WellConnected persisted
        (values.foldl (fun current data => current.apply persisted id data) server) ∧
      ∀ name character, character ∈
          (values.foldl (fun current data => current.apply persisted id data) server).characters
            name ↔
        character ∈ server.characters name ∨
          (character = id ∧ name ∈ values ∧ persisted name = true) := by
  induction values generalizing server with
  | nil => exact ⟨connected, by simp⟩
  | cons data rest ih =>
    obtain ⟨first, added⟩ := connected.apply id data
    obtain ⟨last, all⟩ := ih first
    refine ⟨last, ?_⟩
    intro name character
    rw [foldl_cons, all, added, mem_cons]
    constructor
    · rintro ((old | ⟨rfl, rfl, known⟩) | ⟨rfl, member, known⟩)
      · exact .inl old
      · exact .inr ⟨rfl, .inl rfl, known⟩
      · exact .inr ⟨rfl, .inr member, known⟩
    · rintro (old | ⟨rfl, rfl | member, known⟩)
      · exact .inl (.inl old)
      · exact .inl (.inr ⟨rfl, rfl, known⟩)
      · exact .inr ⟨rfl, member, known⟩

end

end WellConnected

theorem foldl_apply_frame (server : Ownership) (id : Nat) (values : List String) :
    (values.foldl (fun current data => current.apply persisted id data) server).entities =
        server.entities ∧
      (values.foldl (fun current data => current.apply persisted id data) server).account =
        server.account := by
  induction values generalizing server with
  | nil => exact ⟨rfl, rfl⟩
  | cons data rest ih =>
    have once : (server.apply persisted id data).entities = server.entities ∧
        (server.apply persisted id data).account = server.account := by
      have looked : (server.getAccountByName persisted data).1.entities = server.entities ∧
          (server.getAccountByName persisted data).1.account = server.account := by
        unfold getAccountByName
        split
        · exact ⟨rfl, rfl⟩
        · split <;> exact ⟨rfl, rfl⟩
      unfold apply
      split <;> exact looked
    rw [foldl_cons, (ih _).1, (ih _).2]
    exact once

/-- Its property names the account. -/
def Follows (server : Ownership) : Prop :=
  ∀ id ∈ server.entities, ∀ name, persisted name = true →
    (id ∈ server.characters name ↔ server.account id = some name)

/-- By the property, until the end of the entity. -/
structure Owned (server : Ownership) : Prop where
  connected : WellConnected persisted server
  follows : server.Follows persisted
  gone : ∀ id, id ∉ server.entities → ∀ name, id ∉ server.characters name
  unnamed : ∀ id, id ∉ server.entities → server.account id = none

/-- Once named, it stays named. -/
def KeepsOwner (server : Ownership) (event : OwnershipEvent) : Prop :=
  ∀ applied ∈ server.appliedValues event,
    ∀ name ∈ (server.account applied.1).toList ++ applied.2, persisted name = true →
      applied.2.getLast?.or (server.account applied.1) = some name

instance (server : Ownership) (event : OwnershipEvent) :
    Decidable (server.KeepsOwner persisted event) :=
  inferInstanceAs (Decidable (∀ applied ∈ server.appliedValues event,
    ∀ name ∈ (server.account applied.1).toList ++ applied.2, persisted name = true →
      applied.2.getLast?.or (server.account applied.1) = some name))

namespace Owned

variable {persisted} {server : Ownership}

theorem initial : Owned persisted initial :=
  ⟨.initial, by simp [Follows, Ownership.initial], by simp [Ownership.initial],
    by simp [Ownership.initial]⟩

section

variable (owned : Owned persisted server)

include owned

/-- Applying values that keep the owner. -/
theorem applyValues {id : Nat} {values : List String}
    (kept : ∀ name ∈ (server.account id).toList ++ values, persisted name = true →
      values.getLast?.or (server.account id) = some name) :
    Owned persisted (server.applyValues persisted id values) := by
  have started : WellConnected persisted
      { server with
        entities := if id ∈ server.entities then server.entities else id :: server.entities
        account := update server.account id (values.getLast?.or (server.account id)) } :=
    ⟨owned.connected.unloaded, owned.connected.persisted, owned.connected.connected⟩
  obtain ⟨connected, added⟩ := started.foldl_apply id values
  obtain ⟨entities, account⟩ := foldl_apply_frame persisted
    { server with
      entities := if id ∈ server.entities then server.entities else id :: server.entities
      account := update server.account id (values.getLast?.or (server.account id)) }
    id values
  have known : ∀ other, other ∈ (server.applyValues persisted id values).entities ↔
      other = id ∨ other ∈ server.entities := by
    intro other
    rw [Ownership.applyValues, entities]
    split
    · next member =>
        constructor
        · exact Or.inr
        · rintro (rfl | old)
          · exact member
          · exact old
    · exact mem_cons
  refine ⟨connected, ?_, ?_, ?_⟩
  · intro other isEntity name isAccount
    rw [Ownership.applyValues, added, account]
    by_cases same : other = id
    · subst same
      simp only [update_self, true_and]
      constructor
      · rintro (old | ⟨member, _⟩)
        · have before : server.account other = some name := by
            by_cases wasEntity : other ∈ server.entities
            · exact (owned.follows other wasEntity name isAccount).mp old
            · exact absurd old (owned.gone other wasEntity name)
          exact kept name (by simp [before]) isAccount
        · exact kept name (mem_append_right _ member) isAccount
      · intro stays
        cases last : values.getLast? with
        | some value =>
          rw [last, some_or] at stays
          obtain rfl := Option.some.inj stays
          exact .inr ⟨mem_of_getLast? last, isAccount⟩
        | none =>
          rw [last, none_or] at stays
          refine .inl ?_
          by_cases wasEntity : other ∈ server.entities
          · exact (owned.follows other wasEntity name isAccount).mpr stays
          · rw [owned.unnamed other wasEntity] at stays
            cases stays
    · have wasEntity : other ∈ server.entities := by
        rcases (known other).mp isEntity with itself | old
        · exact absurd itself same
        · exact old
      simp only [same, false_and, or_false, update_of_ne same]
      exact owned.follows other wasEntity name isAccount
  · intro other notEntity name
    rw [known, not_or] at notEntity
    rw [Ownership.applyValues, added]
    simp [notEntity.1, owned.gone other notEntity.2 name]
  · intro other notEntity
    rw [known, not_or] at notEntity
    rw [Ownership.applyValues, account]
    simp [update_of_ne notEntity.1, owned.unnamed other notEntity.2]

theorem destroy (id : Nat) : Owned persisted (server.destroy id) := by
  have left : ∀ name character, character ∈ (server.destroy id).characters name ↔
      character ∈ server.characters name ∧ character ≠ id := by
    intro name character
    simp only [Ownership.destroy]
    split
    · simp [mem_filter]
    · next notTold =>
        constructor
        · intro member
          refine ⟨member, ?_⟩
          rintro rfl
          exact notTold (owned.connected.connected name character member)
        · exact And.left
  have stays : ∀ other, other ∈ (server.destroy id).entities ↔
      other ∈ server.entities ∧ other ≠ id := by
    intro other
    simp [Ownership.destroy, mem_filter]
  refine ⟨⟨?_, owned.connected.persisted, ?_⟩, ?_, ?_, ?_⟩
  · intro name notLoaded
    rw [eq_nil_iff_forall_not_mem]
    intro character member
    have before := ((left name character).mp member).1
    rw [owned.connected.unloaded name notLoaded] at before
    cases before
  · intro name character member
    exact owned.connected.connected name character ((left name character).mp member).1
  · intro other isEntity name isAccount
    obtain ⟨wasEntity, different⟩ := (stays other).mp isEntity
    rw [left]
    simp only [Ownership.destroy, update_of_ne different, and_iff_left different]
    exact owned.follows other wasEntity name isAccount
  · intro other notEntity name member
    obtain ⟨before, different⟩ := (left name other).mp member
    have wasGone : other ∉ server.entities := fun was =>
      notEntity ((stays other).mpr ⟨was, different⟩)
    exact owned.gone other wasGone name before
  · intro other notEntity
    by_cases same : other = id
    · simp [Ownership.destroy, same]
    · have wasGone : other ∉ server.entities := fun was =>
        notEntity ((stays other).mpr ⟨was, same⟩)
      simp [Ownership.destroy, update_of_ne same, owned.unnamed other wasGone]

theorem perform {event : OwnershipEvent}
    (kept : server.KeepsOwner persisted event) :
    Owned persisted (server.perform persisted event) := by
  have applies : ∀ applied ∈ server.appliedValues event,
      Owned persisted (server.applyValues persisted applied.1 applied.2) :=
    fun applied member => owned.applyValues (kept applied member)
  cases event with
  | destroy id => exact owned.destroy id
  | create id default attributes =>
    simp only [Ownership.perform]
    split
    · next found => exact applies _ found
    · exact owned
  | restore id default rows =>
    simp only [Ownership.perform]
    split
    · next found => exact applies _ found
    · exact owned
  | set id value =>
    simp only [Ownership.perform]
    split
    · next found => exact applies _ found
    · exact owned

end

end Owned

/-- An account lists the characters that belong to it, as long as no character is given from one
account to another. -/
theorem run_follows (events : List OwnershipEvent)
    (kept : Admissible (perform persisted) (KeepsOwner persisted) initial events) :
    let final := run (perform persisted) initial events
    ∀ id ∈ final.entities, ∀ name, persisted name = true →
      (id ∈ final.characters name ↔ final.account id = some name) ∧
        (final.possessesWithoutKey name id = true ↔ final.account id = some name) := by
  intro final id isEntity name isAccount
  have owned : Owned persisted final :=
    run_invariant (Owned persisted) (fun _ _ before holds => before.perform holds)
      Owned.initial kept
  have follows := owned.follows id isEntity name isAccount
  refine ⟨follows, ?_⟩
  rw [← follows]
  simp [possessesWithoutKey]

/-- Created, handed over, and destroyed. -/
theorem run_follows_orphan :
    ∃ events : List OwnershipEvent,
      Admissible (perform fun name => name == "alice") (KeepsOwner fun name => name == "alice")
          initial events ∧
        (let final := run (perform fun name => name == "alice") initial events
        ∀ id ∈ final.entities, ∀ name, (name == "alice") = true →
          (id ∈ final.characters name ↔ final.account id = some name) ∧
            (final.possessesWithoutKey name id = true ↔ final.account id = some name)) ∧
        (run (perform fun name => name == "alice") initial events).characters "alice" = [5] := by
  refine ⟨[.create 5 none [.string "mallory"], .set 5 (.string "alice"), .set 5 (.list []),
    .restore 6 (some "alice") [], .destroy 6], by decide +kernel, ?_, by decide +kernel⟩
  exact run_follows _ _ (by decide +kernel)

/-- It stays with both accounts. -/
theorem handed_over_not_follows :
    ¬ Follows (fun name => name == "alice" || name == "bob")
      (run (perform fun name => name == "alice" || name == "bob") initial
        [.create 5 none [.string "alice"], .set 5 (.string "bob")]) ∧
    (run (perform fun name => name == "alice" || name == "bob") initial
        [.create 5 none [.string "alice"], .set 5 (.string "bob")]).possessesWithoutKey "alice" 5 =
      true := by
  constructor
  · intro follows
    have still := (follows 5 (by decide +kernel) "alice" (by decide)).mp (by decide +kernel)
    exact absurd still (by decide +kernel)
  · decide +kernel

end Ownership

end Cyphesis.Server
