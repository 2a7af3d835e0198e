import Cyphesis.Foundation.Run
import Mathlib.Data.List.Sort

/-!
# Requests for possession

An entity whose mind property names a script and a language is to be possessed by an external
client.
-/

namespace Cyphesis.Server

open Cyphesis.Foundation
open Function

/-- An account that offers, and its link. -/
structure ExternalMindsConnection where
  routerId : String
  link : Nat

/-- With its connection and entity. -/
structure PossessRequest where
  connection : ExternalMindsConnection
  entity : Nat

/-- Connections in order, and requests. -/
structure ExternalMindsManager where
  connections : List ExternalMindsConnection
  unpossessed : List Nat
  possessed : List Nat
  possessions : List Nat
  sent : List PossessRequest

namespace ExternalMindsManager

def initial : ExternalMindsManager :=
  { connections := [], unpossessed := [], possessed := [], possessions := [], sent := [] }

variable (id : Nat)

/-- Put an element into a set. -/
def insert (ids : List Nat) : List Nat :=
  if id ∈ ids then ids else id :: ids

variable (manager : ExternalMindsManager)

/-- `addPossession`, with a new key. -/
def addPossessionEntryForCharacter (id : Nat) :
    ExternalMindsManager :=
  { manager with possessions := insert id manager.possessions }

def removePossession (id : Nat) : ExternalMindsManager :=
  { manager with possessions := manager.possessions.filter (· ≠ id) }

/-- The last one is asked. -/
def requestPossessionFromRegisteredClients (id : Nat) :
    ExternalMindsManager :=
  match manager.connections.getLast? with
  | some connection =>
    if id ∈ manager.possessions then
      { manager with sent := manager.sent ++ [⟨connection, id⟩] }
    else manager
  | none => manager

/-- False if there already is one. -/
def addConnection (connection : ExternalMindsConnection) : ExternalMindsManager × Bool :=
  if connection.routerId ∈ manager.connections.map (·.routerId) then (manager, false)
  else
    (manager.unpossessed.foldl requestPossessionFromRegisteredClients
      { manager with
        connections := manager.connections.orderedInsert
          (fun first second => first.routerId ≤ second.routerId) connection }, true)

def removeConnection (routerId : String) :
    ExternalMindsManager :=
  { manager with connections := manager.connections.filter (·.routerId ≠ routerId) }

def entity_mindsChanged (noMinds : Bool) (manager : ExternalMindsManager) :
    ExternalMindsManager :=
  if noMinds then
    (addPossessionEntryForCharacter
      { manager with
        possessed := manager.possessed.filter (· ≠ id)
        unpossessed := insert id manager.unpossessed } id).requestPossessionFromRegisteredClients id
  else
    { manager with
      unpossessed := manager.unpossessed.filter (· ≠ id)
      possessed := insert id manager.possessed }

def entity_destroyed : ExternalMindsManager :=
  { manager with
    unpossessed := manager.unpossessed.filter (· ≠ id)
    possessed := manager.possessed.filter (· ≠ id) }

def removeRequest (id : Nat) : ExternalMindsManager :=
  { manager with unpossessed := manager.unpossessed.filter (· ≠ id) }

/-- `requestPossession`, without the handlers. -/
def requestPossession (id : Nat) (noMinds : Bool) :
    ExternalMindsManager :=
  let waiting : ExternalMindsManager :=
    { manager.addPossessionEntryForCharacter id with
      unpossessed := insert id manager.unpossessed }
  if noMinds then waiting.requestPossessionFromRegisteredClients id else waiting

end ExternalMindsManager

/-- An entity loses its last mind. -/
structure Loss where
  entity : Nat
  enabled : Bool
  registered : Bool
  requests : Nat
  deriving DecidableEq

/-- Entities and manager; `losses` is history. -/
structure Possession where
  manager : ExternalMindsManager
  live : List Nat
  mindEnabled : Nat → Bool
  minds : Nat → List Nat
  handlers : Nat → Nat
  losses : List Loss

inductive PossessionEvent where
  | create (id : Nat)
  /-- With a value or without. -/
  | apply (id : Nat) (enabled : Bool)
  | remove (id : Nat)
  /-- With a key or without. -/
  | addMind (id mind : Nat) (withKey : Bool)
  | removeMind (id mind : Nat)
  | destroy (id : Nat)
  | addConnection (connection : ExternalMindsConnection)
  | removeConnection (routerId : String)

namespace Possession

open ExternalMindsManager

def initial : Possession :=
  { manager := .initial, live := [], mindEnabled := fun _ => false, minds := fun _ => [],
    handlers := fun _ => 0, losses := [] }

/-- Call a handler as often as it was added. -/
def notify (handler : ExternalMindsManager → ExternalMindsManager) :
    Nat → ExternalMindsManager → ExternalMindsManager
  | 0, manager => manager
  | count + 1, manager => notify handler count (handler manager)

variable (world : Possession)

variable (id : Nat)

/-- `entity.applyProperty` on the minds property. -/
def applyMinds (minds : List Nat) : Possession :=
  { world with
    minds := update world.minds id minds
    manager := notify (entity_mindsChanged id minds.isEmpty) (world.handlers id) world.manager }

/-- `MindProperty::apply`. -/
def applyMind (enabled : Bool) : Possession :=
  if enabled then
    { world with
      mindEnabled := update world.mindEnabled id true
      handlers := update world.handlers id (world.handlers id + 1)
      manager := world.manager.requestPossession id (world.minds id).isEmpty }
  else
    { world with
      mindEnabled := update world.mindEnabled id false
      manager := world.manager.removeRequest id }

/-- `Account::connectCharacter`, perhaps with a key. -/
def addMind (id mind : Nat) (withKey : Bool) : Possession :=
  let connected := world.applyMinds id (world.minds id ++ [mind])
  if withKey then { connected with manager := connected.manager.removePossession id }
  else connected

/-- Requests sent for it. -/
def requestsFor : Nat :=
  (world.manager.sent.filter (·.entity = id)).length

/-- `Account::removeMindFromEntity`. -/
def removeMind (id mind : Nat) : Possession :=
  let removed := world.applyMinds id ((world.minds id).erase mind)
  if ((world.minds id).erase mind).isEmpty then
    { removed with
      losses := world.losses ++
        [{ entity := id, enabled := world.mindEnabled id
           registered := !world.manager.connections.isEmpty
           requests := removed.requestsFor id - world.requestsFor id }] }
  else removed

def perform : PossessionEvent → Possession
  | .create id =>
    if id ∈ world.live then world
    else
      { world with
        live := id :: world.live
        mindEnabled := update world.mindEnabled id false
        minds := update world.minds id []
        handlers := update world.handlers id 0 }
  | .apply id enabled => if id ∈ world.live then world.applyMind id enabled else world
  | .remove id => if id ∈ world.live then world.applyMind id false else world
  | .addMind id mind withKey =>
    if id ∈ world.live then
      if withKey ∧ id ∉ world.manager.possessions then world else world.addMind id mind withKey
    else if withKey then { world with manager := world.manager.removePossession id }
    else world
  -- an account only takes away a mind that it has connected
  | .removeMind id mind =>
    if id ∈ world.live ∧ mind ∈ world.minds id then world.removeMind id mind else world
  | .destroy id =>
    { world with
      live := world.live.filter (· ≠ id)
      manager := notify (entity_destroyed id) (world.handlers id) world.manager }
  | .addConnection connection =>
    { world with manager := (world.manager.addConnection connection).1 }
  | .removeConnection routerId =>
    { world with manager := world.manager.removeConnection routerId }

end Possession

namespace ExternalMindsManager

variable {manager after : ExternalMindsManager} {id other : Nat} {noMinds : Bool}

@[simp]
theorem mem_insert {ids : List Nat} : other ∈ insert id ids ↔ other = id ∨ other ∈ ids := by
  unfold insert
  split
  · next member =>
      constructor
      · exact Or.inr
      · rintro (rfl | old)
        · exact member
        · exact old
  · exact List.mem_cons

section

variable (manager)

theorem request_frame (id : Nat) :
    (manager.requestPossessionFromRegisteredClients id).connections = manager.connections ∧
      (manager.requestPossessionFromRegisteredClients id).unpossessed = manager.unpossessed ∧
      (manager.requestPossessionFromRegisteredClients id).possessed = manager.possessed ∧
      (manager.requestPossessionFromRegisteredClients id).possessions = manager.possessions := by
  unfold requestPossessionFromRegisteredClients
  split
  · split <;> exact ⟨rfl, rfl, rfl, rfl⟩
  · exact ⟨rfl, rfl, rfl, rfl⟩

theorem requests_frame (ids : List Nat) :
    (ids.foldl requestPossessionFromRegisteredClients manager).connections = manager.connections ∧
      (ids.foldl requestPossessionFromRegisteredClients manager).unpossessed = manager.unpossessed ∧
      (ids.foldl requestPossessionFromRegisteredClients manager).possessed = manager.possessed ∧
      (ids.foldl requestPossessionFromRegisteredClients manager).possessions =
        manager.possessions := by
  induction ids generalizing manager with
  | nil => exact ⟨rfl, rfl, rfl, rfl⟩
  | cons id rest ih =>
    obtain ⟨connections, unpossessed, possessed, possessions⟩ := request_frame manager id
    obtain ⟨first, second, third, fourth⟩ :=
      ih (manager.requestPossessionFromRegisteredClients id)
    exact ⟨first.trans connections, second.trans unpossessed, third.trans possessed,
      fourth.trans possessions⟩

end

/-- What a change of minds does. -/
structure Changed (id : Nat) (noMinds : Bool) (manager after : ExternalMindsManager) : Prop where
  connections : after.connections = manager.connections
  unpossessed : ∀ other, other ∈ after.unpossessed ↔
    if other = id then noMinds = true else other ∈ manager.unpossessed
  possessed : ∀ other, other ∈ after.possessed ↔
    if other = id then noMinds = false else other ∈ manager.possessed
  possessions : ∀ other, other ∈ after.possessions ↔
    (other = id ∧ noMinds = true) ∨ other ∈ manager.possessions

theorem mindsChanged_changed (id : Nat) (noMinds : Bool) (manager : ExternalMindsManager) :
    Changed id noMinds manager (entity_mindsChanged id noMinds manager) := by
  cases noMinds with
  | true =>
    simp only [entity_mindsChanged, if_true]
    obtain ⟨connections, unpossessed, possessed, possessions⟩ := request_frame
      (addPossessionEntryForCharacter
        { manager with
          possessed := manager.possessed.filter (· ≠ id)
          unpossessed := insert id manager.unpossessed } id) id
    constructor
    · exact connections
    · intro other
      rw [unpossessed]
      by_cases same : other = id <;> simp [addPossessionEntryForCharacter, same]
    · intro other
      rw [possessed]
      by_cases same : other = id <;> simp [addPossessionEntryForCharacter, same]
    · intro other
      rw [possessions]
      simp [addPossessionEntryForCharacter]
  | false =>
    simp only [entity_mindsChanged, Bool.false_eq_true, if_false]
    constructor
    · rfl
    · intro other
      by_cases same : other = id <;> simp [same]
    · intro other
      by_cases same : other = id <;> simp [same]
    · simp

theorem Changed.trans {last : ExternalMindsManager} (first : Changed id noMinds manager after)
    (second : Changed id noMinds after last) : Changed id noMinds manager last := by
  constructor
  · exact second.connections.trans first.connections
  · intro other
    rw [second.unpossessed]
    by_cases same : other = id
    · simp [same]
    · simp [same, first.unpossessed]
  · intro other
    rw [second.possessed]
    by_cases same : other = id
    · simp [same]
    · simp [same, first.possessed]
  · intro other
    rw [second.possessions, first.possessions]
    constructor
    · rintro (new | new | old)
      · exact .inl new
      · exact .inl new
      · exact .inr old
    · rintro (new | old)
      · exact .inl new
      · exact .inr (.inr old)

theorem notify_changed (id : Nat) (noMinds : Bool) (count : Nat)
    (manager : ExternalMindsManager) :
    Changed id noMinds manager
      (Possession.notify (entity_mindsChanged id noMinds) (count + 1) manager) := by
  induction count generalizing manager with
  | zero => exact mindsChanged_changed id noMinds manager
  | succ count ih =>
    exact (mindsChanged_changed id noMinds manager).trans
      (ih (entity_mindsChanged id noMinds manager))

theorem mindsChanged_sent (id : Nat) (manager : ExternalMindsManager) :
    (entity_mindsChanged id true manager).sent =
      manager.sent ++ (manager.connections.getLast?.map (⟨·, id⟩)).toList := by
  simp only [entity_mindsChanged, if_true, requestPossessionFromRegisteredClients,
    addPossessionEntryForCharacter]
  cases manager.connections.getLast? with
  | none => simp
  | some connection => simp

theorem notify_destroyed (id count : Nat) (manager : ExternalMindsManager) :
    (Possession.notify (entity_destroyed id) (count + 1) manager).connections =
        manager.connections ∧
      (Possession.notify (entity_destroyed id) (count + 1) manager).possessions =
        manager.possessions ∧
      (∀ other, other ∈ (Possession.notify (entity_destroyed id) (count + 1) manager).unpossessed ↔
        other ≠ id ∧ other ∈ manager.unpossessed) ∧
      (∀ other, other ∈ (Possession.notify (entity_destroyed id) (count + 1) manager).possessed ↔
        other ≠ id ∧ other ∈ manager.possessed) := by
  induction count generalizing manager with
  | zero => simp [Possession.notify, entity_destroyed, and_comm]
  | succ count ih =>
    obtain ⟨connections, possessions, unpossessed, possessed⟩ :=
      ih (entity_destroyed id manager)
    refine ⟨connections, possessions, ?_, ?_⟩
    · intro other
      refine (unpossessed other).trans ?_
      simp [entity_destroyed, and_comm]
    · intro other
      refine (possessed other).trans ?_
      simp [entity_destroyed, and_comm]

end ExternalMindsManager

end Cyphesis.Server
