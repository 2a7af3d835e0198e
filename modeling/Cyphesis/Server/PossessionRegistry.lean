import Std.Data.String.ToNat
import Cyphesis.Server.SessionInvariant

/-!
# Registrations for possession

Offers of clients to possess entities are kept by the manager of external minds, and by each
connection, which takes them back when it is closed.
-/

namespace Cyphesis.Server

open Cyphesis.Foundation List Option
open Function

namespace ServerRouting

variable (server : ServerRouting)

/-- Connection of an account. -/
def accountLink (id : Nat) : Option Nat :=
  (server.account? id).bind AccountState.connection

/-- There is a registration for the account. -/
def registered (id : Nat) : Prop :=
  toString id ∈ server.manager.connections.map (·.routerId)

instance (server : ServerRouting) (id : Nat) : Decidable (server.registered id) :=
  inferInstanceAs (Decidable (_ ∈ _))

/-- Possession, but for the links. -/
def possession : ExternalMindsManager × (Nat → List Nat) :=
  (server.manager, fun connection => (server.table connection).possessionRouters)

end ServerRouting

/-- With the last request of each. -/
structure Registry where
  server : ServerRouting
  lastRequest : Nat → Option Bool

namespace Registry

open ServerRouting

/-- Note a call. -/
def note (registry : Registry) : SessionEffect → Nat → Option Bool
  | .createAccount _ _ _ _ => update registry.lastRequest registry.server.nextId none
  | .login _ id => update registry.lastRequest id none
  | .setPossessionEnabled _ enabled id => update registry.lastRequest id (some enabled)
  | _ => registry.lastRequest

def perform (registry : Registry) (effect : SessionEffect) : Registry :=
  ⟨(registry.server.perform effect).1, registry.note effect⟩

variable (digest : String → List UInt8)

variable (registry : Registry) (event : Surroundings × SessionEvent)

def step : Registry :=
  run perform registry (handle digest event.1 registry.server event.2).effects

theorem step_server :
    (registry.step digest event).server = ServerRouting.step digest registry.server event := by
  rw [ServerRouting.step, performAll_fst]
  exact (foldl_hom Registry.server fun _ _ => rfl).symm

/-- Connected, and asked last for it. -/
structure Follows (registry : Registry) : Prop where
  registered : ∀ id state, registry.server.account? id = some state →
    (registry.server.registered id ↔ state.connection ≠ none ∧ registry.lastRequest id = some true)
  link : ∀ registration ∈ registry.server.manager.connections, ∃ id state,
    registration.routerId = toString id ∧ registry.server.account? id = some state ∧
      state.connection = some registration.link
  closing : ∀ connection ∈ registry.server.connections,
    ∀ registration ∈ registry.server.manager.connections, registration.link ≠ connection →
      registration ∈ (registry.server.closeConnection connection).1.manager.connections

/-- Registrations end with their connection. -/
def Orderly : SessionEffect → Prop
  | .disconnectObject _ id => ¬ registry.server.registered id
  | .setPossessionEnabled connection enabled id => enabled = true →
      ∀ other ∈ registry.server.connections, other ≠ connection →
        id ∉ (registry.server.table other).possessionRouters
  | _ => True

instance (registry : Registry) : ∀ effect, Decidable (registry.Orderly effect)
  | .disconnectObject _ _ => inferInstanceAs (Decidable (¬ _))
  | .setPossessionEnabled _ _ _ => inferInstanceAs (Decidable (_ → _))
  | .load _ => isTrue trivial
  | .createAccount _ _ _ _ => isTrue trivial
  | .login _ _ => isTrue trivial
  | .createJuncture _ => isTrue trivial
  | .connectCharacter _ _ => isTrue trivial
  | .removeMind _ _ => isTrue trivial
  | .addCharacter _ _ => isTrue trivial
  | .destroyEntity _ => isTrue trivial
  | .openConnection _ => isTrue trivial
  | .closeConnection _ => isTrue trivial
  | .disconnect _ => isTrue trivial
  | .send _ _ => isTrue trivial
  | .lobbyBroadcast _ => isTrue trivial

/-- Its calls are orderly. -/
def OrderlyEvent : Prop :=
  Admissible perform Orderly registry (handle digest event.1 registry.server event.2).effects

instance (registry : Registry) (event : Surroundings × SessionEvent) :
    Decidable (registry.OrderlyEvent digest event) :=
  inferInstanceAs (Decidable (Admissible _ _ _ _))

end Registry

namespace ServerRouting

variable {server : ServerRouting} {connection id : Nat}

theorem accountLink_eq (server : ServerRouting) (id : Nat) :
    server.accountLink id = (server.view id).bind fun view =>
      if view.isAccount then view.connection else none := by
  unfold accountLink account? view
  cases server.object id with
  | none => rfl
  | some object =>
    cases object with
    | account state => rfl
    | juncture held => rfl

variable {after : ServerRouting}

theorem accountLink_of_view (same : after.view = server.view) :
    after.accountLink = server.accountLink := by
  funext id
  rw [accountLink_eq, accountLink_eq, same]

theorem accountLink_update {changed : View}
    (updated : after.view = update server.view id (some changed)) :
    after.accountLink = update server.accountLink id
      (if changed.isAccount then changed.connection else none) := by
  funext x
  rw [accountLink_eq, updated]
  by_cases same : x = id
  · subst same
    simp
  · rw [update_of_ne same, update_of_ne same, accountLink_eq]

variable {state : AccountState}

theorem accountLink_some (isAccount : server.account? id = some state) :
    server.accountLink id = state.connection := by
  rw [accountLink, isAccount]
  rfl

theorem possession_ext (manager : after.manager = server.manager)
    (noted : ∀ connection, (after.table connection).possessionRouters =
      (server.table connection).possessionRouters) : after.possession = server.possession := by
  rw [possession, possession, manager, funext noted]

section

variable (server)

theorem possession_setTable (connection : Nat) {table : ConnectionTable}
    (same : table.possessionRouters = (server.table connection).possessionRouters) :
    (server.setTable connection table).possession = server.possession := by
  refine possession_ext rfl fun other => ?_
  rw [setTable_table]
  split
  next here => rw [here, same]
  · rfl

theorem possession_modifyAccount (id : Nat)
    (change : AccountState → AccountState) :
    (server.modifyAccount id change).possession = server.possession := by
  unfold modifyAccount
  split
  · rfl
  · rfl

theorem possession_addConnectableRouter (connection id : Nat) :
    (server.addConnectableRouter connection id).possession = server.possession := by
  have connected : (server.connectObject connection id).possession = server.possession := by
    unfold connectObject
    split <;> rfl
  simp only [addConnectableRouter, addRouter]
  rw [possession_setTable, possession_setTable, connected]
  · rfl
  · rfl

theorem possession_removeMind (id entity : Nat) :
    (server.removeMind id entity).possession = server.possession := by
  cases isAccount : server.account? id with
  | none => simp only [removeMind, isAccount]
  | some state =>
    rw [removeMind_eq isAccount]
    refine possession_ext rfl fun other => ?_
    dsimp only
    split
    · rfl
    · rfl

theorem possession_connectCharacter (id entity : Nat) :
    (server.connectCharacter id entity).possession = server.possession := by
  cases isAccount : server.account? id with
  | none => simp only [connectCharacter, isAccount]
  | some state =>
    cases connected : state.connection with
    | none => simp only [connectCharacter, isAccount, connected]
    | some connection =>
      rw [connectCharacter_eq isAccount connected]
      exact possession_setTable server connection rfl

theorem possession_disconnectObject (connection id : Nat) :
    (server.disconnectObject connection id).1.possession = server.possession := by
  have released : ∀ current : ServerRouting,
      (current.releaseObject id).possession = current.possession := by
    intro current
    cases isObject : current.object id with
    | none => simp only [releaseObject, isObject]
    | some object =>
      obtain ⟨_, _, eq⟩ := releaseObject_eq isObject
      rw [eq]
      refine possession_ext rfl fun other => ?_
      dsimp only
      split
      · rfl
      · rfl
  simp only [disconnectObject, removeRouter]
  rw [possession_setTable, possession_setTable, released, lobbyRemoveAccount_fst]
  · rfl
  · rfl
  · rfl

theorem possession_disconnectAll (connection : Nat) (ids : List Nat) :
    (server.disconnectAll connection ids).possession = server.possession := by
  induction ids generalizing server with
  | nil => rfl
  | cons first rest ih => exact (ih _).trans (possession_disconnectObject server connection first)

theorem accountLink_modifyAccount (id : Nat)
    {change : AccountState → AccountState}
    (same : ∀ state, (Connectable.account (change state)).view = (Connectable.account state).view) :
    (server.modifyAccount id change).accountLink = server.accountLink :=
  accountLink_of_view (modifyAccount_view same)

theorem accountLink_removeMind (id entity : Nat) :
    (server.removeMind id entity).accountLink = server.accountLink := by
  cases isAccount : server.account? id with
  | none => simp only [removeMind, isAccount]
  | some state =>
    have view : (server.removeMind id entity).view = update server.view id
        (some (Connectable.account
          { state with minds := state.minds.filter (·.1 ≠ entity) }).view) := by
      rw [removeMind_eq isAccount]
      exact setObject_view _
    rw [accountLink_update view]
    exact update_eq_self_iff.mpr (accountLink_some isAccount).symm

theorem accountLink_connectCharacter (id entity : Nat) :
    (server.connectCharacter id entity).accountLink = server.accountLink := by
  cases isAccount : server.account? id with
  | none => simp only [connectCharacter, isAccount]
  | some state =>
    cases connected : state.connection with
    | none => simp only [connectCharacter, isAccount, connected]
    | some connection =>
      have view : (server.connectCharacter id entity).view = update server.view id
          (some (Connectable.account
            { state with minds := state.minds ++ [(entity, server.nextId)] }).view) := by
        rw [connectCharacter_eq isAccount connected]
        exact setObject_view _
      rw [accountLink_update view]
      exact update_eq_self_iff.mpr (accountLink_some isAccount).symm

theorem destroyEntity_frame (entity : Nat) :
    (server.perform (.destroyEntity entity)).1.accountLink = server.accountLink ∧
      (server.perform (.destroyEntity entity)).1.possession = server.possession := by
  refine run_invariant_of_step (fun current : ServerRouting =>
    current.accountLink = server.accountLink ∧ current.possession = server.possession)
    ?_ ⟨rfl, rfl⟩ server.names
  rintro current name ⟨link, possession⟩
  constructor
  · refine (accountLink_modifyAccount _ _ ?_).trans ((accountLink_removeMind ..).trans link)
    exact fun _ => rfl
  · exact ((possession_modifyAccount ..).trans (possession_removeMind ..)).trans possession

end

theorem accountLink_addConnectableRouter
    (isObject : server.object id = some (.account state)) (connection : Nat) :
    (server.addConnectableRouter connection id).accountLink =
      update server.accountLink id (some connection) :=
  accountLink_update (connectObject_view isObject)

theorem accountLink_nextId (coherent : server.Coherent) :
    server.accountLink server.nextId = none := by
  rw [accountLink_eq]
  cases isView : server.view server.nextId with
  | none => rfl
  | some taken => exact absurd (coherent.known _ taken isView) (lt_irrefl _)

section

variable (server)

theorem setPossessionEnabled_frame (connection : Nat) (enabled : Bool)
    (id : Nat) :
    (server.setPossessionEnabled connection enabled id).accountLink = server.accountLink ∧
      (server.setPossessionEnabled connection enabled id).connections = server.connections := by
  obtain ⟨manager, possessionRouters, eq⟩ :=
    setPossessionEnabled_eq server connection enabled id
  rw [eq]
  exact ⟨rfl, rfl⟩

theorem accountLink_withObject (object : Connectable)
    (names : List (String × Nat)) (connection : Nat) :
    ((server.withObject object names).addConnectableRouter connection server.nextId).accountLink =
      update server.accountLink server.nextId
        (if object.view.isAccount then some connection else none) := by
  have isObject : (server.withObject object names).object server.nextId = some object :=
    update_self ..
  have created : (server.withObject object names).view =
      update server.view server.nextId (some object.view) := setObject_view object
  have connected : ((server.withObject object names).addConnectableRouter connection
      server.nextId).view = update server.view server.nextId
        (some { object.view with connection := some connection }) := by
    have view : ((server.withObject object names).addConnectableRouter connection
        server.nextId).view =
          ((server.withObject object names).connectObject connection server.nextId).view := rfl
    rw [view, connectObject_view isObject, created, update_idem]
  exact accountLink_update connected

end

variable (manager : ExternalMindsManager)

theorem mem_removeConnections (ids : List Nat) (registration : ExternalMindsConnection) :
    registration ∈ (ids.foldl (fun manager id => manager.removeConnection (toString id))
        manager).connections ↔
      registration ∈ manager.connections ∧ ∀ id ∈ ids, registration.routerId ≠ toString id := by
  induction ids generalizing manager with
  | nil => simp
  | cons first rest ih =>
    rw [foldl_cons, ih]
    simp [ExternalMindsManager.removeConnection, and_assoc]

theorem mem_addConnection (connection registration : ExternalMindsConnection) :
    registration ∈ (manager.addConnection connection).1.connections ↔
      registration ∈ manager.connections ∨ ((manager.addConnection connection).2 = true ∧
        registration = connection) := by
  unfold ExternalMindsManager.addConnection
  split
  · simp
  · simp [(ExternalMindsManager.requests_frame _ _).1, or_comm]

theorem addConnection_snd (connection : ExternalMindsConnection) :
    (manager.addConnection connection).2 = true ↔
      connection.routerId ∉ manager.connections.map (·.routerId) := by
  unfold ExternalMindsManager.addConnection
  split
  next taken => simp only [Bool.false_eq_true, taken, not_true_eq_false]
  next free => simp only [free, not_false_eq_true]

theorem addConnection_of_registered (isRegistered : server.registered id) :
    server.manager.addConnection ⟨toString id, connection⟩ = (server.manager, false) :=
  if_pos isRegistered

theorem mem_closeConnection (server : ServerRouting) (connection : Nat)
    (registration : ExternalMindsConnection) :
    registration ∈ (server.closeConnection connection).1.manager.connections ↔
      registration ∈ server.manager.connections ∧
        ∀ id ∈ (server.table connection).possessionRouters,
          registration.routerId ≠ toString id := by
  have manager := congrArg Prod.fst (possession_disconnectAll
    ({ server with
        connections := server.connections.filter (· ≠ connection)
        manager := (server.table connection).possessionRouters.foldl
          (fun manager id => manager.removeConnection (toString id)) server.manager } :
      ServerRouting) connection (server.table connection).connectableRouters)
  rw [closeConnection_fst, ← mem_removeConnections]
  exact iff_of_eq (congrArg (registration ∈ ·.connections) manager)

theorem accountLink_closeConnection (coherent : server.Coherent)
    (isOpen : connection ∈ server.connections) (x other : Nat) :
    (server.closeConnection connection).1.accountLink x = some other ↔
      server.accountLink x = some other ∧ other ≠ connection := by
  have view := (coherent.closeConnection_view isOpen).2 x
  have member := coherent.connectable connection isOpen x
  rw [accountLink_eq, accountLink_eq, view]
  cases isView : server.view x with
  | none => simp
  | some shown =>
    rw [isView] at member
    by_cases here : shown.connection = some connection
    · have isMember := member.mpr ⟨shown, rfl, here⟩
      simp only [isMember, if_true, map_some, bind_some, here]
      split
      · simp [eq_comm]
      · simp
    · have notMember : x ∉ (server.table connection).connectableRouters := by
        intro isMember
        obtain ⟨found, isFound, connected⟩ := member.mp isMember
        obtain rfl := Option.some.inj isFound
        exact here connected
      simp only [notMember, if_false, bind_some]
      split
      · constructor
        · intro connected
          refine ⟨connected, ?_⟩
          rintro rfl
          exact here connected
        · exact And.left
      · simp

end ServerRouting

namespace Registry

open ServerRouting

/-- Registered ones are connected, and asked. -/
structure Tracked (registry : Registry) : Prop where
  holder : ∀ registration ∈ registry.server.manager.connections, ∃ id,
    registration.routerId = toString id ∧
      registry.server.accountLink id = some registration.link ∧
      registry.lastRequest id = some true ∧
      id ∈ (registry.server.table registration.link).possessionRouters
  asked : ∀ id connection, registry.server.accountLink id = some connection →
    registry.lastRequest id = some true → registry.server.registered id
  noted : ∀ connection ∈ registry.server.connections,
    ∀ id ∈ (registry.server.table connection).possessionRouters,
      ∀ registration ∈ registry.server.manager.connections,
        registration.routerId = toString id → registration.link = connection

namespace Tracked

variable {registry after : Registry} {id connection : Nat}

section

variable (tracked : Tracked registry)

include tracked

theorem follows : Follows registry := by
  constructor
  · intro id state isAccount
    have link := accountLink_some isAccount
    constructor
    · intro isRegistered
      obtain ⟨registration, member, same⟩ := List.mem_map.mp isRegistered
      obtain ⟨holder, isHolder, linked, asked, _⟩ := tracked.holder registration member
      obtain rfl := Nat.repr_injective (same.symm.trans isHolder)
      rw [link] at linked
      exact ⟨by simp [linked], asked⟩
    · rintro ⟨connected, asked⟩
      obtain ⟨connection, isSome⟩ := Option.ne_none_iff_exists'.mp connected
      exact tracked.asked id connection (link.trans isSome) asked
  · intro registration member
    obtain ⟨id, isId, linked, _, _⟩ := tracked.holder registration member
    obtain ⟨state, isAccount, connected⟩ := Option.bind_eq_some_iff.mp linked
    exact ⟨id, state, isId, isAccount, connected⟩
  · intro connection isOpen registration member elsewhere
    rw [mem_closeConnection]
    apply And.intro member
    intro id noted same
    exact elsewhere (tracked.noted connection isOpen id noted registration member same)

theorem of_same
    (connections : after.server.connections = registry.server.connections)
    (link : after.server.accountLink = registry.server.accountLink)
    (possession : after.server.possession = registry.server.possession)
    (last : after.lastRequest = registry.lastRequest) : Tracked after := by
  have manager : after.server.manager = registry.server.manager :=
    congrArg Prod.fst possession
  have table : ∀ connection, (after.server.table connection).possessionRouters =
      (registry.server.table connection).possessionRouters :=
    congrFun (congrArg Prod.snd possession)
  constructor
  · simp only [manager, link, last, table]
    exact tracked.holder
  · simp only [registered, manager, link, last]
    exact tracked.asked
  · simp only [connections, manager, table]
    exact tracked.noted

theorem relink (absent : ¬ registry.server.registered id)
    {linked : Option Nat}
    (connections : after.server.connections = registry.server.connections)
    (link : after.server.accountLink = update registry.server.accountLink id linked)
    (possession : after.server.possession = registry.server.possession)
    (last : after.lastRequest = update registry.lastRequest id none ∨
      (linked = none ∧ after.lastRequest = registry.lastRequest)) : Tracked after := by
  have manager : after.server.manager = registry.server.manager :=
    congrArg Prod.fst possession
  have table : ∀ connection, (after.server.table connection).possessionRouters =
      (registry.server.table connection).possessionRouters :=
    congrFun (congrArg Prod.snd possession)
  have lastElsewhere : ∀ x, x ≠ id → after.lastRequest x = registry.lastRequest x := by
    intro x different
    rcases last with reset | ⟨_, same⟩
    · rw [reset, update_of_ne different]
    · rw [same]
  constructor
  · intro registration member
    rw [manager] at member
    obtain ⟨holder, isHolder, isLinked, asked, noted⟩ := tracked.holder registration member
    have different : holder ≠ id := by
      rintro rfl
      exact absent (List.mem_map.mpr ⟨registration, member, isHolder⟩)
    refine ⟨holder, isHolder, ?_, (lastElsewhere holder different).trans asked, ?_⟩
    · rw [link, update_of_ne different]
      exact isLinked
    · rw [table]
      exact noted
  · intro x connection isLinked asked
    rw [registered, manager]
    by_cases same : x = id
    · subst same
      rcases last with reset | ⟨gone, _⟩
      · rw [reset, update_self] at asked
        cases asked
      · rw [link, gone, update_self] at isLinked
        cases isLinked
    · rw [link, update_of_ne same] at isLinked
      exact tracked.asked x connection isLinked ((lastElsewhere x same).symm.trans asked)
  · simp only [connections, manager, table]
    exact tracked.noted

theorem closeConnection (coherent : registry.server.Coherent)
    (isOpen : connection ∈ registry.server.connections) :
    Tracked (registry.perform (.closeConnection connection)) := by
  have table : ∀ other,
      ((registry.server.closeConnection connection).1.table other).possessionRouters =
        (registry.server.table other).possessionRouters := by
    intro other
    rw [closeConnection_fst]
    exact congrFun (congrArg Prod.snd (possession_disconnectAll ..)) other
  constructor
  · intro registration member
    obtain ⟨old, kept⟩ := (mem_closeConnection ..).mp member
    obtain ⟨id, isId, isLinked, asked, noted⟩ := tracked.holder registration old
    refine ⟨id, isId, ?_, asked, ?_⟩
    · apply (accountLink_closeConnection coherent isOpen id registration.link).mpr
      apply And.intro isLinked
      rintro rfl
      exact kept id noted isId
    · exact (table registration.link).symm ▸ noted
  · intro id other isLinked asked
    obtain ⟨before, elsewhere⟩ := (accountLink_closeConnection coherent isOpen id other).mp isLinked
    obtain ⟨registration, member, same⟩ := List.mem_map.mp (tracked.asked id other before asked)
    obtain ⟨holder, isHolder, isLinked', _, _⟩ := tracked.holder registration member
    obtain rfl := Nat.repr_injective (same.symm.trans isHolder)
    refine List.mem_map.mpr ⟨registration, ?_, same⟩
    apply (mem_closeConnection ..).mpr
    apply And.intro member
    -- Were the account noted by the closed connection, it would be linked to it.
    intro listed noted isListed
    have here := tracked.noted connection isOpen listed noted registration member isListed
    rw [here, before] at isLinked'
    exact elsewhere (Option.some.inj isLinked')
  · intro other isOther id noted registration member same
    have filtered := perform_connections registry.server (.closeConnection connection)
    have isOther' := mem_of_mem_filter (filtered ▸ isOther)
    exact tracked.noted other isOther' id ((table other) ▸ noted)
      registration ((mem_closeConnection ..).mp member).1 same

theorem openConnection (coherent : registry.server.Coherent)
    (trusted : Bool) : Tracked (registry.perform (.openConnection trusted)) := by
  have table : ∀ other ∈ registry.server.connections,
      (registry.server.perform (.openConnection trusted)).1.table other =
        registry.server.table other := by
    intro other isOther
    have different : other ≠ registry.server.nextId :=
      (coherent.openKnown other isOther).ne
    exact update_of_ne different _ _
  constructor
  · intro registration member
    obtain ⟨id, isId, isLinked, asked, noted⟩ := tracked.holder registration member
    refine ⟨id, isId, isLinked, asked, ?_⟩
    obtain ⟨state, isAccount, connected⟩ := Option.bind_eq_some_iff.mp isLinked
    have isOpen := coherent.attached id _ _ (account?_view isAccount) connected
    exact (table _ isOpen).symm ▸ noted
  · exact tracked.asked
  · intro other isOther id noted registration member same
    rcases List.mem_append.mp isOther with old | isNew
    · exact tracked.noted other old id ((table other old) ▸ noted) registration member same
    · obtain rfl := List.mem_singleton.mp isNew
      have empty : ((registry.server.perform (.openConnection trusted)).1.table
          registry.server.nextId).possessionRouters = [] := by
        simp [ServerRouting.perform, setTable]
      have noted' := empty ▸ noted
      cases noted'

theorem not_registered (unlinked : registry.server.accountLink id = none) :
    ¬ registry.server.registered id := by
  intro isRegistered
  obtain ⟨registration, member, same⟩ := List.mem_map.mp isRegistered
  obtain ⟨holder, isHolder, isLinked, _, _⟩ := tracked.holder registration member
  obtain rfl := Nat.repr_injective (same.symm.trans isHolder)
  rw [unlinked] at isLinked
  cases isLinked

section

variable (link : registry.server.accountLink id = some connection)

include link

theorem enable
    (orderly : ∀ other ∈ registry.server.connections, other ≠ connection →
      id ∉ (registry.server.table other).possessionRouters) :
    Tracked (registry.perform (.setPossessionEnabled connection true id)) := by
  by_cases isRegistered : registry.server.registered id
  · have same : registry.server.setPossessionEnabled connection true id = registry.server := by
      simp only [setPossessionEnabled, addConnection_of_registered isRegistered, if_true,
        Bool.false_eq_true, if_false]
    have asked : registry.lastRequest id = some true := by
      obtain ⟨registration, member, isId⟩ := List.mem_map.mp isRegistered
      obtain ⟨holder, isHolder, _, asked, _⟩ := tracked.holder registration member
      obtain rfl := Nat.repr_injective (isId.symm.trans isHolder)
      exact asked
    have kept : registry.perform (.setPossessionEnabled connection true id) = registry := by
      simp only [Registry.perform, ServerRouting.perform, same, note]
      rw [update_eq_self_iff.mpr asked.symm]
    rw [kept]
    exact tracked
  · have isNew : (registry.server.manager.addConnection ⟨toString id, connection⟩).2 = true :=
      (addConnection_snd ..).mpr isRegistered
    have member : ∀ registration,
        registration ∈ (registry.perform
          (.setPossessionEnabled connection true id)).server.manager.connections ↔
          registration ∈ registry.server.manager.connections ∨
            registration = ⟨toString id, connection⟩ := by
      intro registration
      have added := mem_addConnection registry.server.manager ⟨toString id, connection⟩ registration
      simp only [isNew, true_and] at added
      simp only [Registry.perform, ServerRouting.perform, setPossessionEnabled, isNew, if_true,
        setTable]
      exact added
    have table : ∀ other x,
        x ∈ ((registry.perform (.setPossessionEnabled connection true id)).server.table
          other).possessionRouters ↔
          x ∈ (registry.server.table other).possessionRouters ∨ (other = connection ∧ x = id) := by
      intro other x
      simp only [Registry.perform, ServerRouting.perform, setPossessionEnabled, isNew, if_true,
        setTable_table]
      split
      next here => simp [here]
      next elsewhere => simp [elsewhere]
    obtain ⟨links, connections⟩ :=
      setPossessionEnabled_frame registry.server connection true id
    constructor
    · intro registration isMember
      rcases (member registration).mp isMember with old | rfl
      · obtain ⟨holder, isHolder, isLinked, asked, noted⟩ := tracked.holder registration old
        have different : holder ≠ id := by
          rintro rfl
          exact isRegistered (List.mem_map.mpr ⟨registration, old, isHolder⟩)
        refine ⟨holder, isHolder, (congrFun links holder).trans isLinked, ?_,
          (table ..).mpr (.inl noted)⟩
        exact (update_of_ne different _ _).trans asked
      · exact ⟨id, rfl, (congrFun links id).trans link, update_self ..,
          (table ..).mpr (.inr ⟨rfl, rfl⟩)⟩
    · intro x other isLinked asked
      by_cases same : x = id
      · subst same
        exact List.mem_map.mpr ⟨_, (member _).mpr (.inr rfl), rfl⟩
      · have before : registry.lastRequest x = some true :=
          (update_of_ne same _ _).symm.trans asked
        obtain ⟨registration, old, isId⟩ := List.mem_map.mp
          (tracked.asked x other ((congrFun links x).symm.trans isLinked) before)
        exact List.mem_map.mpr ⟨registration, (member _).mpr (.inl old), isId⟩
    · intro other isOther x isNoted registration isMember isId
      have isOther' : other ∈ registry.server.connections :=
        connections ▸ isOther
      rcases (member registration).mp isMember with old | rfl
      · rcases (table other x).mp isNoted with noted | ⟨_, rfl⟩
        · exact tracked.noted other isOther' x noted registration old isId
        · exact absurd (List.mem_map.mpr ⟨registration, old, isId⟩) isRegistered
      · obtain rfl := Nat.repr_injective isId
        by_contra elsewhere
        rcases (table other id).mp isNoted with noted | ⟨here, _⟩
        · exact orderly other isOther' (Ne.symm elsewhere) noted
        · exact elsewhere here.symm

theorem disable : Tracked (registry.perform (.setPossessionEnabled connection false id)) := by
  have member : ∀ registration,
      registration ∈ (registry.perform
        (.setPossessionEnabled connection false id)).server.manager.connections ↔
        registration ∈ registry.server.manager.connections ∧
          registration.routerId ≠ toString id := by
    intro registration
    simp only [Registry.perform, ServerRouting.perform, setPossessionEnabled, Bool.false_eq_true,
      if_false]
    split
    · simp [ExternalMindsManager.removeConnection]
    next unnoted =>
      constructor
      · intro isMember
        apply And.intro isMember
        -- A registration would have been noted.
        intro isId
        obtain ⟨holder, isHolder, isLinked, _, noted⟩ := tracked.holder registration isMember
        obtain rfl := Nat.repr_injective (isId.symm.trans isHolder)
        rw [link] at isLinked
        exact unnoted (Option.some.inj isLinked ▸ noted)
      · exact And.left
  have table : ∀ other,
      (registry.perform (.setPossessionEnabled connection false id)).server.table other =
        registry.server.table other := by
    intro other
    simp only [Registry.perform, ServerRouting.perform, setPossessionEnabled, Bool.false_eq_true,
      if_false]
    split
    · rfl
    · rfl
  obtain ⟨links, connections⟩ := setPossessionEnabled_frame registry.server connection false id
  constructor
  · intro registration isMember
    obtain ⟨old, different⟩ := (member registration).mp isMember
    obtain ⟨holder, isHolder, isLinked, asked, noted⟩ := tracked.holder registration old
    have notId : holder ≠ id := by
      rintro rfl
      exact different isHolder
    refine ⟨holder, isHolder, (congrFun links holder).trans isLinked, ?_, ?_⟩
    · exact (update_of_ne notId _ _).trans asked
    · rw [table]
      exact noted
  · intro x other isLinked asked
    have notId : x ≠ id := by
      rintro rfl
      simp [Registry.perform, note] at asked
    have before : registry.lastRequest x = some true :=
      (update_of_ne notId _ _).symm.trans asked
    obtain ⟨registration, old, isId⟩ := List.mem_map.mp
      (tracked.asked x other ((congrFun links x).symm.trans isLinked) before)
    refine List.mem_map.mpr ⟨registration, (member _).mpr ⟨old, ?_⟩, isId⟩
    intro same
    exact notId (Nat.repr_injective (isId.symm.trans same))
  · intro other isOther x isNoted registration isMember isId
    have isOther' : other ∈ registry.server.connections :=
      connections ▸ isOther
    rw [table] at isNoted
    exact tracked.noted other isOther' x isNoted registration ((member _).mp isMember).1 isId

end

theorem perform {effect : SessionEffect}
    (coherent : registry.server.Coherent) (permitted : registry.server.Permitted effect)
    (orderly : registry.Orderly effect) : Tracked (registry.perform effect) := by
  have connections := perform_connections registry.server effect
  cases effect with
  | load id =>
    exact tracked.of_same connections (accountLink_modifyAccount _ _ fun _ => rfl)
      (possession_modifyAccount ..) rfl
  | createAccount connection type username hash =>
    have link := accountLink_withObject registry.server
      (.account (newAccount type username hash connection))
      (registry.server.names ++ [(username, registry.server.nextId)]) connection
    exact tracked.relink (tracked.not_registered (accountLink_nextId coherent)) connections link
      (possession_addConnectableRouter ..) (.inl rfl)
  | login connection id =>
    obtain ⟨_, state, isAccount, unconnected⟩ := permitted
    have unlinked := (accountLink_some isAccount).trans unconnected
    exact tracked.relink (tracked.not_registered unlinked) connections
      (accountLink_addConnectableRouter (account?_object isAccount) connection)
      (possession_addConnectableRouter ..) (.inl rfl)
  | disconnectObject connection id =>
    obtain ⟨isOpen, member⟩ := permitted
    obtain ⟨view, isView, connected⟩ := (coherent.connectable connection isOpen id).mp member
    obtain ⟨object, isObject, rfl⟩ := Option.map_eq_some_iff.mp isView
    have updated := (coherent.disconnectObject isObject (.inl connected)).2
    exact tracked.relink orderly connections (accountLink_update updated)
      (possession_disconnectObject ..) (.inr ⟨by simp, rfl⟩)
  | createJuncture connection =>
    have link := accountLink_withObject registry.server (.juncture (some connection))
      registry.server.names connection
    rw [update_eq_self_iff.mpr (accountLink_nextId coherent).symm] at link
    exact tracked.of_same connections link (possession_addConnectableRouter ..) rfl
  | connectCharacter id entity =>
    exact tracked.of_same connections (accountLink_connectCharacter ..)
      (possession_connectCharacter ..) rfl
  | removeMind id entity =>
    exact tracked.of_same connections (accountLink_removeMind ..) (possession_removeMind ..) rfl
  | setPossessionEnabled connection enabled id =>
    obtain ⟨state, isAccount, connected⟩ := permitted
    have link := (accountLink_some isAccount).trans connected
    cases enabled with
    | true => exact tracked.enable link (orderly rfl)
    | false => exact tracked.disable link
  | addCharacter id entity =>
    exact tracked.of_same connections (accountLink_modifyAccount _ _ fun _ => rfl)
      (possession_modifyAccount ..) rfl
  | destroyEntity entity =>
    obtain ⟨link, possession⟩ := destroyEntity_frame registry.server entity
    exact tracked.of_same connections link possession rfl
  | openConnection trusted => exact tracked.openConnection coherent trusted
  | closeConnection connection => exact tracked.closeConnection coherent permitted
  | disconnect connection => exact tracked
  | send connection reply => exact tracked
  | lobbyBroadcast reply => exact tracked

end

theorem step (digest : String → List UInt8) (tracked : Tracked registry)
    (coherent : registry.server.Coherent) (event : Surroundings × SessionEvent)
    (orderly : registry.OrderlyEvent digest event) : Tracked (registry.step digest event) := by
  have each : ∀ (effects : List SessionEffect) (current : Registry), Tracked current →
      current.server.Coherent → Handled.Permitted ⟨effects, []⟩ current.server →
      Admissible Registry.perform Orderly current effects →
      Tracked (run Registry.perform current effects) := by
    intro effects
    induction effects with
    | nil => exact fun _ tracked _ _ _ => tracked
    | cons effect rest ih =>
      rintro current tracked coherent ⟨permitted, permittedRest⟩ ⟨orderly, orderlyRest⟩
      exact ih _ (tracked.perform coherent permitted orderly) (coherent.perform permitted)
        permittedRest orderlyRest
  exact each _ registry tracked coherent
    (permitted_handle digest event.1 registry.server coherent event.2) orderly

end Tracked

/-- At the start there are none. -/
structure Initial (registry : Registry) : Prop where
  server : registry.server.Initial
  manager : registry.server.manager.connections = []
  lastRequest : ∀ id, registry.lastRequest id = none

theorem Initial.tracked {registry : Registry} (initial : registry.Initial) : Tracked registry := by
  constructor
  · intro registration member
    rw [initial.manager] at member
    cases member
  · intro id connection _ asked
    rw [initial.lastRequest] at asked
    cases asked
  · intro connection isOpen
    rw [initial.server.connections] at isOpen
    cases isOpen

/-- After every run the connections registered for possession are those whose last request asked for
it and that are still open. -/
theorem run_registrations_follow (digest : String → List UInt8) {registry : Registry}
    (initial : registry.Initial) {events : List (Surroundings × SessionEvent)}
    (orderly : Admissible (step digest) (OrderlyEvent digest) registry events) :
    Follows (run (step digest) registry events) := by
  have both := run_invariant (fun registry => Tracked registry ∧ registry.server.Coherent)
    (fun registry event invariant orderly =>
      ⟨invariant.1.step digest invariant.2 event orderly,
        (step_server digest registry event).symm ▸ invariant.2.step digest event⟩)
    ⟨initial.tracked, initial.server.coherent⟩ orderly
  exact both.1.follows

/-- The guest is an administrator. -/
def adminRegistry : Registry :=
  { server :=
      { guestServer with
        object := fun id =>
          if id = 1 then
            some (.account
              { username := "guest", type := .admin, password := "80E430340A84F60F5503FDC607C5B84B",
                loaded := false, connection := none, minds := [], characters := [] })
          else none }
    lastRequest := fun _ => none }

/-- With an identifier and attributes. -/
def argument (id : String) (attributes : List (String × Atlas.Element)) : Argument :=
  { id := some id, parent := "", objtype := some "obj", loc := none, attributes := attributes,
    isEntity := true }

/-- He offers to possess entities. -/
def adminOffer : List (Surroundings × SessionEvent) :=
  guestLogin ++ [(emptySurroundings, .routerOp 2 "1"
    { classNo := .set, parent := "set", serialno := some 2, target := none
      args := [argument "1" [("possessive", .int 1)]] })]

theorem adminRegistry_initial : Initial adminRegistry := by
  constructor
  · constructor
    · intro id object isObject
      simp only [adminRegistry] at isObject
      split at isObject
      next same =>
        subst same
        obtain rfl := Option.some.inj isObject
        exact ⟨by decide, rfl, rfl⟩
      · cases isObject
    · rfl
    · rfl
  · rfl
  · exact fun _ => rfl

theorem run_registrations_follow_offer :
    (run (step guestDigest) adminRegistry adminOffer).server.registered 1 ∧
      Follows (run (step guestDigest) adminRegistry adminOffer) :=
  ⟨by decide +kernel,
    run_registrations_follow guestDigest adminRegistry_initial (by decide +kernel)⟩

/-- By identifier, to the connection. -/
def logoutById : Surroundings × SessionEvent :=
  (emptySurroundings, .connectionOp 2
    { classNo := .logout, parent := "logout", serialno := some 3, target := none
      args := [argument "1" []] })

/-- It stays when he is logged out. -/
theorem logged_out_not_follows :
    ¬ Follows (run (step guestDigest) adminRegistry (adminOffer ++ [logoutById])) := by
  intro follows
  have isRegistered :
      (run (step guestDigest) adminRegistry (adminOffer ++ [logoutById])).server.registered 1 := by
    decide +kernel
  obtain ⟨registration, member, isId⟩ := List.mem_map.mp isRegistered
  obtain ⟨id, state, isHolder, isAccount, connected⟩ := follows.link registration member
  obtain rfl := Nat.repr_injective (isId.symm.trans isHolder)
  have unconnected : (run (step guestDigest) adminRegistry
      (adminOffer ++ [logoutById])).server.accountLink 1 = none := by
    decide +kernel
  rw [accountLink_some isAccount, connected] at unconnected
  cases unconnected

end Registry

end Cyphesis.Server
