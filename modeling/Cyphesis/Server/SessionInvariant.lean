import Cyphesis.Server.SessionCalls

/-!
# Sessions stay in agreement

The handlers see to what their calls need, so the tables agree after every sequence of events.
-/

namespace Cyphesis.Server

open Cyphesis.Foundation List

namespace ServerRouting

variable {server : ServerRouting} {connection id : Nat}

/-- Calls that need no condition. -/
def Unrestricted (effect : SessionEffect) : Prop :=
  ∀ server : ServerRouting, server.Permitted effect

/-- Only calls without condition. -/
def Handled.Harmless (handled : Handled) : Prop :=
  ∀ effect ∈ handled.effects, Unrestricted effect

/-- Calls are permitted when made. -/
def Handled.Permitted (handled : Handled) (server : ServerRouting) : Prop :=
  Admissible (fun current effect => (current.perform effect).1) ServerRouting.Permitted server
    handled.effects

theorem Handled.Harmless.permitted {handled : Handled} (harmless : handled.Harmless)
    (server : ServerRouting) : handled.Permitted server := by
  obtain ⟨effects, res⟩ := handled
  induction effects generalizing server with
  | nil => exact trivial
  | cons effect rest ih =>
    apply And.intro (harmless effect mem_cons_self server)
    apply ih
    exact fun later member => harmless later (mem_cons_of_mem effect member)

section handlers

variable (digest : String → List UInt8) (surroundings : Surroundings) (server : ServerRouting)
  (connection id : Nat) (state : AccountState) (op : ClientOp) (res : List Reply)

theorem harmless_nil : Handled.Harmless ⟨[], res⟩ := by
  intro effect member
  cases member

theorem harmless_cons (effect : SessionEffect) (effects : List SessionEffect) :
    Handled.Harmless ⟨effect :: effects, res⟩ ↔
      Unrestricted effect ∧ Handled.Harmless ⟨effects, res⟩ :=
  forall_mem_cons

variable (reply : Reply)

theorem harmless_reply : (Handled.reply reply).Harmless :=
  harmless_nil _

theorem harmless_accountError (text : String) : (accountError id op text).Harmless :=
  harmless_nil _

theorem harmless_accountSight (arg : ReplyArg) : (accountSight id arg).Harmless :=
  harmless_nil _

theorem unrestricted_load : Unrestricted (.load id) :=
  fun _ => trivial

theorem unrestricted_send : Unrestricted (.send connection reply) :=
  fun _ => trivial

theorem unrestricted_disconnect : Unrestricted (.disconnect connection) :=
  fun _ => trivial

theorem unrestricted_lobbyBroadcast : Unrestricted (.lobbyBroadcast reply) :=
  fun _ => trivial

variable (entity : Nat)

theorem unrestricted_connectCharacter : Unrestricted (.connectCharacter id entity) :=
  fun _ => trivial

theorem unrestricted_removeMind : Unrestricted (.removeMind id entity) :=
  fun _ => trivial

attribute [local simp] harmless_nil harmless_cons harmless_reply harmless_accountError
  harmless_accountSight unrestricted_load unrestricted_send unrestricted_disconnect
  unrestricted_lobbyBroadcast
  unrestricted_connectCharacter unrestricted_removeMind

theorem harmless_accountCreateOperation : (accountCreateOperation surroundings id op).Harmless := by
  unfold accountCreateOperation
  repeat' split
  all_goals simp

theorem harmless_accountLogoutOperation : (accountLogoutOperation id state op).Harmless := by
  unfold accountLogoutOperation
  repeat' split
  all_goals simp

theorem harmless_adminLogoutOperation :
    (adminLogoutOperation surroundings server id state op).Harmless := by
  unfold adminLogoutOperation
  repeat' split
  case h_1.isTrue other _ _ =>
    cases other.connection with
    | none => simp
    | some connection => simp
  all_goals simp [harmless_accountLogoutOperation]

theorem harmless_lobbyOperation (kind : ReplyKind) (recipient : String) :
    (lobbyOperation surroundings server kind id op recipient).Harmless := by
  unfold lobbyOperation
  simp only
  repeat' split
  all_goals simp

theorem harmless_speakOperation (kind : ReplyKind) (malformed : String) (arg : Argument) :
    (speakOperation surroundings server kind malformed id state op arg).Harmless := by
  unfold speakOperation
  split
  · simp
  split
  · simp
  · apply harmless_lobbyOperation

theorem harmless_talkOperation : (talkOperation surroundings server id state op).Harmless := by
  unfold talkOperation
  split
  · simp
  · apply harmless_speakOperation

theorem harmless_imaginaryOperation :
    (imaginaryOperation surroundings server id state op).Harmless := by
  unfold imaginaryOperation
  split
  · simp
  · apply harmless_speakOperation

theorem harmless_connectCharacterOperation :
    (connectCharacterOperation server id state entity).Harmless := by
  unfold connectCharacterOperation
  split
  all_goals simp

theorem harmless_possessOperation :
    (possessOperation surroundings server id state op).Harmless := by
  unfold possessOperation
  repeat' split
  all_goals simp [harmless_connectCharacterOperation]

theorem harmless_lookOperation : (lookOperation surroundings server id state op).Harmless := by
  unfold lookOperation
  repeat' split
  all_goals simp

theorem harmless_adminGetObject (text : String) :
    (adminGetObject surroundings server id op text).Harmless := by
  unfold adminGetObject
  simp only
  repeat' split
  all_goals simp

theorem harmless_adminGetOperation : (adminGetOperation surroundings server id op).Harmless := by
  unfold adminGetOperation
  repeat' split
  all_goals simp [harmless_adminGetObject]

theorem harmless_getOperation : (getOperation surroundings op).Harmless := by
  unfold getOperation
  repeat' split
  all_goals simp

section

variable (isOpen : connection ∈ server.connections)

include isOpen

theorem permitted_loginOperation :
    (loginOperation digest surroundings server connection op).Permitted server := by
  unfold loginOperation
  split
  · exact (harmless_reply _).permitted server
  split
  · exact (harmless_reply _).permitted server
  split
  · exact (harmless_reply _).permitted server
  split
  · exact (harmless_reply _).permitted server
  next id _ =>
    split
    · exact (harmless_reply _).permitted server
    next state isAccount =>
      split
      · exact Handled.Harmless.permitted (by simp) server
      split
      · exact Handled.Harmless.permitted (by simp) server
      next unconnected =>
        have loaded : (server.perform (.load id)).1.account? id =
            some { state with loaded := true } := by
          simp only [perform, modifyAccount, account?_object isAccount, account?, setObject,
            Function.update_self]
        refine ⟨trivial, ⟨?_, _, loaded, ?_⟩, trivial⟩
        · rw [perform_connections]
          exact isOpen
        · exact Option.not_isSome_iff_eq_none.mp unconnected

theorem permitted_createOperation :
    (createOperation digest surroundings server connection op).Permitted server := by
  unfold createOperation
  repeat' split
  case h_2.isFalse => exact ⟨isOpen, trivial⟩
  all_goals exact Handled.Harmless.permitted (by simp) server

theorem permitted_logoutOperation : (logoutOperation server connection op).Permitted server := by
  unfold logoutOperation
  repeat' split
  case h_2 found => exact ⟨⟨isOpen, mem_of_find?_eq_some found⟩, trivial⟩
  all_goals exact Handled.Harmless.permitted (by simp) server

theorem permitted_connectionOperation :
    (connectionOperation digest surroundings server connection op).Permitted server := by
  unfold connectionOperation
  split
  · exact permitted_createOperation digest surroundings server connection op isOpen
  · exact (harmless_getOperation surroundings op).permitted server
  · exact permitted_loginOperation digest surroundings server connection op isOpen
  · exact permitted_logoutOperation server connection op isOpen
  · exact (harmless_nil _).permitted server
  · exact (harmless_reply _).permitted server

end

theorem permitted_adminCreateOperation
    (attached : ∀ connection, state.connection = some connection →
      connection ∈ server.connections) :
    (adminCreateOperation surroundings server id state op).Permitted server := by
  unfold adminCreateOperation
  split
  · exact (harmless_nil _).permitted server
  split
  · split
    · exact (harmless_accountError _ _ _).permitted server
    · exact (harmless_nil _).permitted server
  split
  · split
    · exact (harmless_accountError _ _ _).permitted server
    split
    · exact (harmless_nil _).permitted server
    next connected => exact ⟨attached _ connected, trivial⟩
  · exact (harmless_accountCreateOperation surroundings id op).permitted server

section

variable (isAccount : server.account? id = some state)

include isAccount

theorem permitted_setAttribute (arg : Argument) : (setAttribute id state arg).Permitted server := by
  unfold setAttribute
  split
  · exact (harmless_nil _).permitted server
  split
  · exact (harmless_nil _).permitted server
  next connected => exact ⟨⟨state, isAccount, connected⟩, trivial⟩

theorem permitted_adminSetOperation :
    (adminSetOperation surroundings id state op).Permitted server := by
  unfold adminSetOperation
  split
  · exact (harmless_accountError _ _ _).permitted server
  split
  · exact (harmless_accountError _ _ _).permitted server
  split
  · exact (harmless_accountError _ _ _).permitted server
  split
  · split
    · exact permitted_setAttribute server id state isAccount _
    · exact (harmless_nil _).permitted server
  split
  · exact (harmless_nil _).permitted server
  · exact (harmless_accountError _ _ _).permitted server

theorem permitted_processAccountOperation
    (attached : ∀ connection, state.connection = some connection →
      connection ∈ server.connections) :
    (processAccountOperation surroundings server id state op).Permitted server := by
  unfold processAccountOperation
  split
  · split
    · exact permitted_adminCreateOperation surroundings server id state op attached
    · exact (harmless_accountCreateOperation surroundings id op).permitted server
  · split
    · exact (harmless_adminGetOperation surroundings server id op).permitted server
    · exact (harmless_nil _).permitted server
  · exact (harmless_imaginaryOperation surroundings server id state op).permitted server
  · split
    · exact (harmless_adminLogoutOperation surroundings server id state op).permitted server
    · exact (harmless_accountLogoutOperation id state op).permitted server
  · exact (harmless_lookOperation surroundings server id state op).permitted server
  · split
    · exact permitted_adminSetOperation surroundings server id state op isAccount
    · exact (harmless_nil _).permitted server
  · exact (harmless_talkOperation surroundings server id state op).permitted server
  · exact (harmless_nil _).permitted server
  · exact (harmless_possessOperation surroundings server id state op).permitted server
  · split
    · exact (harmless_nil _).permitted server
    · exact (harmless_reply _).permitted server

end

theorem permitted_routerOperation (coherent : server.Coherent) (sender : String) :
    (routerOperation surroundings server connection sender op).Permitted server := by
  unfold routerOperation processExternalOperation
  split
  · exact (harmless_reply _).permitted server
  split
  next state isAccount =>
    split
    · exact (harmless_nil _).permitted server
    · apply permitted_processAccountOperation surroundings server _ state op isAccount
      intro connection connected
      exact coherent.attached _ _ connection (account?_view isAccount) connected
  · exact (harmless_nil _).permitted server

theorem harmless_accountApplied (username : String) (entity : Nat) :
    (accountApplied surroundings server username entity).Harmless := by
  unfold accountApplied
  split
  · simp
  split
  · simp
  next state _ =>
    have added : ∀ id, Unrestricted (.addCharacter id entity) := fun _ _ => trivial
    cases state.connection with
    | none => simp [added]
    | some connection => simp [added]

theorem permitted_handle (coherent : server.Coherent) (event : SessionEvent) :
    (handle digest surroundings server event).Permitted server := by
  unfold handle
  split
  · exact ⟨trivial, trivial⟩
  next connection op =>
    split
    next isOpen =>
      exact permitted_connectionOperation digest surroundings server connection op isOpen
    · exact (harmless_nil _).permitted server
  next connection sender op =>
    split
    · exact permitted_routerOperation surroundings server connection op coherent sender
    · exact (harmless_nil _).permitted server
  next connection =>
    split
    next isOpen => exact ⟨isOpen, trivial⟩
    · exact (harmless_nil _).permitted server
  · exact ⟨trivial, trivial⟩
  · exact (harmless_accountApplied surroundings server _ _).permitted server

end handlers

theorem performAll_fst (server : ServerRouting) (effects : List SessionEffect) :
    (server.performAll effects).1 =
      run (fun current effect => (current.perform effect).1) server effects := by
  unfold performAll run
  exact (foldl_hom Prod.fst fun _ _ => rfl).symm

theorem Coherent.step (digest : String → List UInt8) (coherent : server.Coherent)
    (event : Surroundings × SessionEvent) : (step digest server event).Coherent := by
  rw [ServerRouting.step, performAll_fst]
  exact run_invariant Coherent (fun _ _ => Coherent.perform) coherent
    (permitted_handle digest event.1 server coherent event.2)

/-- Server at its start, without connections. -/
structure Initial (server : ServerRouting) : Prop where
  accounts : ∀ id object, server.object id = some object →
    id < server.nextId ∧ object.view.connection = none ∧ object.view.minds = []
  connections : server.connections = []
  lobby : server.lobby = []

theorem Initial.coherent (initial : Initial server) : server.Coherent := by
  have unconnected : ∀ id view, server.view id = some view →
      id < server.nextId ∧ view.connection = none ∧ view.minds = [] := by
    intro id view isView
    obtain ⟨object, isObject, rfl⟩ := Option.map_eq_some_iff.mp isView
    exact initial.accounts id object isObject
  have noMinds : ∀ id view mind, server.view id = some view → ¬ view.hasMind mind := by
    rintro id view mind isView ⟨entity, member⟩
    rw [(unconnected id view isView).2.2] at member
    cases member
  rw [Coherent, initial.connections]
  constructor
  · intro id view isView
    exact (unconnected id view isView).1
  · intro connection isOpen
    cases isOpen
  · intro id view connection isView connected
    rw [(unconnected id view isView).2.1] at connected
    cases connected
  · intro connection isOpen
    cases isOpen
  · intro connection isOpen
    cases isOpen
  · intro id
    rw [initial.lobby]
    constructor
    · intro member
      cases member
    · rintro ⟨view, isView, _, connected⟩
      exact absurd (unconnected id view isView).2.1 connected
  · intro id view isView _
    exact (unconnected id view isView).2.2
  · intro id view mind isView hasMind
    exact absurd hasMind (noMinds id view mind isView)
  · intro id view other view' mind entity entity' isView _ member
    exact absurd ⟨entity, member⟩ (noMinds id view mind isView)

/-- A router that may be on a connection. -/
def Live (server : ServerRouting) (connection id : Nat) : Prop :=
  server.getConnection id = some connection ∨
    ∃ owner state entity, server.account? owner = some state ∧
      state.connection = some connection ∧ (entity, id) ∈ state.minds

/-- What the tables say. -/
structure SessionsAgree (server : ServerRouting) : Prop where
  connectable : ∀ id state connection, server.account? id = some state →
    (state.connection = some connection ↔
      connection ∈ server.connections ∧ id ∈ (server.table connection).connectableRouters)
  routed : ∀ id state connection, server.account? id = some state →
    (state.connection = some connection ↔
      connection ∈ server.connections ∧ id ∈ (server.table connection).routers)
  present : ∀ id state, server.account? id = some state →
    (state.connection ≠ none ↔ id ∈ server.lobby)
  accounts : ∀ id ∈ server.lobby, ∃ state, server.account? id = some state
  single : ∀ id, ∀ connection ∈ server.connections, ∀ other ∈ server.connections,
    id ∈ (server.table connection).connectableRouters →
      id ∈ (server.table other).connectableRouters → connection = other
  entries : ∀ connection ∈ server.connections, ∀ id ∈ (server.table connection).routers,
    server.Live connection id
  dispatched : ∀ connection ∈ server.connections, ∀ sender id,
    findId (server.table connection).routers sender = some id → server.Live connection id

theorem view_account {view : View} (isView : server.view id = some view)
    (isAccount : view.isAccount = true) :
    ∃ state, server.account? id = some state ∧ view = ⟨true, state.connection, state.minds⟩ := by
  obtain ⟨object, isObject, rfl⟩ := Option.map_eq_some_iff.mp isView
  cases object with
  | account state =>
    refine ⟨state, ?_, rfl⟩
    rw [account?, isObject]
  | juncture held => cases isAccount

theorem getConnection_eq {view : View} (isView : server.view id = some view) :
    server.getConnection id = view.connection := by
  obtain ⟨object, isObject, rfl⟩ := Option.map_eq_some_iff.mp isView
  cases object with
  | account state => rw [getConnection, isObject]; rfl
  | juncture held => rw [getConnection, isObject]; rfl

theorem Coherent.live (coherent : server.Coherent) (isOpen : connection ∈ server.connections)
    (member : id ∈ (server.table connection).routers) : server.Live connection id := by
  rcases (coherent.routers connection isOpen id).mp member with
    ⟨view, isView, connected⟩ | ⟨owner, view, isView, connected, entity, held⟩
  · exact .inl ((getConnection_eq isView).trans connected)
  · obtain ⟨object, isObject, rfl⟩ := Option.map_eq_some_iff.mp isView
    cases object with
    | account state =>
      refine .inr ⟨owner, state, entity, ?_, connected, held⟩
      rw [account?, isObject]
    | juncture held' => cases held

theorem Coherent.sessionsAgree (coherent : server.Coherent) : SessionsAgree server := by
  constructor
  · intro id state connection isAccount
    have isView := account?_view isAccount
    constructor
    · intro connected
      have isOpen := coherent.attached id _ connection isView connected
      exact ⟨isOpen, (coherent.connectable connection isOpen id).mpr ⟨_, isView, connected⟩⟩
    · rintro ⟨isOpen, member⟩
      obtain ⟨view, isView', connected⟩ := (coherent.connectable connection isOpen id).mp member
      obtain rfl := Option.some.inj (isView.symm.trans isView')
      exact connected
  · intro id state connection isAccount
    have isView := account?_view isAccount
    constructor
    · intro connected
      have isOpen := coherent.attached id _ connection isView connected
      exact ⟨isOpen, (coherent.mem_routers_object isOpen isView).mpr connected⟩
    · rintro ⟨isOpen, member⟩
      exact (coherent.mem_routers_object isOpen isView).mp member
  · intro id state isAccount
    rw [coherent.lobby, account?_view isAccount]
    simp
  · intro id member
    obtain ⟨view, isView, isAccount, _⟩ := (coherent.lobby id).mp member
    obtain ⟨state, isState, _⟩ := view_account isView isAccount
    exact ⟨state, isState⟩
  · intro id connection isOpen other isOther member member'
    obtain ⟨view, isView, connected⟩ := (coherent.connectable connection isOpen id).mp member
    obtain ⟨view', isView', connected'⟩ := (coherent.connectable other isOther id).mp member'
    obtain rfl := Option.some.inj (isView.symm.trans isView')
    exact Option.some.inj (connected.symm.trans connected')
  · intro connection isOpen id member
    exact coherent.live isOpen member
  · intro connection isOpen sender id found
    exact coherent.live isOpen (mem_of_find?_eq_some found)

/-- Connections, accounts, lobby and minds agree about who is logged in after every run. -/
theorem run_sessionsAgree (digest : String → List UInt8) {server : ServerRouting}
    (initial : Initial server) (events : List (Surroundings × SessionEvent)) :
    SessionsAgree (run (step digest) server events) := by
  apply Coherent.sessionsAgree
  exact run_invariant_of_step Coherent (fun _ event coherent => coherent.step digest event)
    initial.coherent events

/-- Digest of its password. -/
def guestDigest (text : String) : List UInt8 :=
  if text = "guest" then [8, 78, 3, 67, 160, 72, 111, 240, 85, 48, 223, 108, 112, 92, 139, 180]
  else []

/-- A guest's account is stored. -/
def guestServer : ServerRouting :=
  { object := fun id =>
      if id = 1 then
        some (.account
          { username := "guest", type := .player, password := "80E430340A84F60F5503FDC607C5B84B",
            loaded := false, connection := none, minds := [], characters := [] })
      else none
    names := [("guest", 1)]
    connections := []
    table := fun _ => ⟨false, [], [], []⟩
    lobby := []
    manager := .initial
    nextId := 2 }

/-- Nothing but the server itself. -/
def emptySurroundings : Surroundings :=
  { lobbyId := "0", restricted := false, idAvailable := true, salt := [], spawnEntities := [],
    spawns := [], serverInfo := .none, getClass := fun _ => none, entity := fun _ => none,
    authenticate := fun _ _ => none, passedOn := [] }

/-- The client of a guest connects and logs in. -/
def guestLogin : List (Surroundings × SessionEvent) :=
  [(emptySurroundings, .accept false),
    (emptySurroundings, .connectionOp 2
      { classNo := .login, parent := "login", serialno := some 1, target := none
        args := [{ id := none, parent := "", objtype := none, loc := none, isEntity := true
                   attributes :=
                     [("username", .string "guest"), ("password", .string "guest")] }] })]

theorem guestServer_initial : Initial guestServer := by
  constructor
  · intro id object isObject
    simp only [guestServer] at isObject
    split at isObject
    next same =>
      subst same
      obtain rfl := Option.some.inj isObject
      exact ⟨by decide, rfl, rfl⟩
    · cases isObject
  · rfl
  · rfl

theorem run_sessionsAgree_guest :
    (run (step guestDigest) guestServer guestLogin).lobby = [1] ∧
      SessionsAgree (run (step guestDigest) guestServer guestLogin) :=
  ⟨by decide +kernel, run_sessionsAgree guestDigest guestServer_initial guestLogin⟩

end ServerRouting

end Cyphesis.Server
