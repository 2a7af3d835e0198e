import Cyphesis.Server.PossessionRegistry

/-!
# Logging out

A Logout is handled by a connection, by an account or, for another account, by an administrator.
The connection releases the account at once.  The account closes the socket, and is released when
the connection is destroyed.  The administrator's only sends the operation to the other client.
-/

namespace Cyphesis.Server

open Cyphesis.Foundation

namespace ServerRouting

variable {server : ServerRouting} {state : AccountState} {op : ClientOp} {connection id : Nat}

/-- The session of an account is over: it has no connection and no minds, and neither the lobby nor
a table of an open connection holds it. -/
structure LoggedOut (server : ServerRouting) (id : Nat) : Prop where
  unconnected : ∃ state, server.account? id = some state ∧ state.connection = none ∧
    state.minds = []
  left : id ∉ server.lobby
  unrouted : ∀ connection ∈ server.connections,
    id ∉ (server.table connection).routers ∧ id ∉ (server.table connection).connectableRouters

/-- A Logout whose argument has the identifier of the account. -/
def NamesAccount (op : ClientOp) (id : Nat) : Prop :=
  op.classNo = .logout ∧ ∃ arg rest text, op.args = arg :: rest ∧ arg.id = some text ∧
    integerId text = id

/-- A Logout that an account handles: an administrator's passes on what is addressed to others. -/
def ForAccount (op : ClientOp) (id : Nat) (state : AccountState) : Prop :=
  op.classNo = .logout ∧
    (isAdmin state = true → op.target = none ∨ op.target = some (toString id))

theorem Coherent.loggedOut (coherent : server.Coherent)
    (released : server.view id = some ⟨true, none, []⟩) : LoggedOut server id := by
  constructor
  · obtain ⟨state, isAccount, eq⟩ := view_account released rfl
    have connection := congrArg View.connection eq
    have minds := congrArg View.minds eq
    exact ⟨state, isAccount, connection.symm, minds.symm⟩
  · intro member
    obtain ⟨view, isView, _, connected⟩ := (coherent.lobby id).mp member
    rw [released] at isView
    cases isView
    exact connected rfl
  · intro connection isOpen
    constructor
    · intro member
      have connected := (coherent.mem_routers_object isOpen released).mp member
      cases connected
    · intro member
      obtain ⟨view, isView, connected⟩ := (coherent.connectable connection isOpen id).mp member
      rw [released] at isView
      cases isView
      cases connected

theorem findId_of_mem {ids : List Nat} {text : String} (names : integerId text = id)
    (member : id ∈ ids) : findId ids text = some id := by
  induction ids with
  | nil => cases member
  | cons first rest ih =>
    by_cases same : first = id
    · subst same
      simp [findId, names]
    · have other : ¬ Int.ofNat first = integerId text := by
        rw [names]
        exact fun eq => same (Int.ofNat_inj.mp eq)
      rw [findId, List.find?_cons_of_neg (by simpa using other)]
      exact ih ((List.mem_cons.mp member).resolve_left fun eq => same eq.symm)

theorem step_handled (digest : String → List UInt8) (surroundings : Surroundings)
    (event : SessionEvent) {handled : Handled}
    (isHandled : handle digest surroundings server event = handled) :
    step digest server (surroundings, event) = (server.performAll handled.effects).1 := by
  rw [step, isHandled]

section session

variable (coherent : server.Coherent) (isAccount : server.account? id = some state)
  (connected : state.connection = some connection)

include coherent isAccount connected

theorem Coherent.isOpen_of_connected : connection ∈ server.connections :=
  coherent.attached id _ connection (account?_view isAccount) connected

variable (digest : String → List UInt8) (surroundings : Surroundings)

theorem connectionOp_loggedOut
    (names : NamesAccount op id) :
    LoggedOut (step digest server (surroundings, .connectionOp connection op)) id := by
  have isOpen := coherent.isOpen_of_connected isAccount connected
  rcases names with ⟨isLogout, arg, rest, text, isArg, isId, isText⟩
  have member : id ∈ (server.table connection).connectableRouters :=
    (coherent.connectable connection isOpen id).mpr ⟨_, account?_view isAccount, connected⟩
  have known : integerId text ≠ -1 := by
    rw [isText]
    omega
  have handled : handle digest surroundings server (.connectionOp connection op) =
      ⟨[.disconnectObject connection id], [{ info [.op op] with refno := op.serialno }]⟩ := by
    simp only [handle, if_pos isOpen, connectionOperation, isLogout, logoutOperation, isArg, isId,
      if_neg known, findId_of_mem isText member]
  have isObject := account?_object isAccount
  apply (coherent.step digest (surroundings, .connectionOp connection op)).loggedOut
  rw [step_handled digest surroundings _ handled]
  have released := (Sound.disconnectObject coherent isObject (.inl connected)).2
  change (server.disconnectObject connection id).1.view id = _
  rw [released, Function.update_self]
  rfl

theorem close_loggedOut : LoggedOut (step digest server (surroundings, .close connection)) id := by
  have isOpen := coherent.isOpen_of_connected isAccount connected
  have member : id ∈ (server.table connection).connectableRouters :=
    (coherent.connectable connection isOpen id).mpr ⟨_, account?_view isAccount, connected⟩
  have handled : handle digest surroundings server (.close connection) =
      ⟨[.closeConnection connection], []⟩ := by
    rw [handle, if_pos isOpen]
  apply (coherent.step digest (surroundings, .close connection)).loggedOut
  rw [step_handled digest surroundings _ handled]
  change (server.closeConnection connection).1.view id = _
  rw [(Sound.closeConnection_view coherent isOpen).2, if_pos member, account?_view isAccount]
  rfl

/-- A Logout of the account itself without an argument closes the socket, and that is all. -/
theorem routerOp_disconnects (own : ForAccount op id state) {sender : String}
    (isSender : integerId sender = id) (none : op.args = []) :
    handle digest surroundings server (.routerOp connection sender op) =
      ⟨[.send connection (logoutInfo id op), .disconnect connection], []⟩ := by
  have isOpen := coherent.isOpen_of_connected isAccount connected
  have member : id ∈ (server.table connection).routers :=
    (coherent.mem_routers_object isOpen (account?_view isAccount)).mpr connected
  have admin : adminLogoutOperation surroundings server id state op =
      accountLogoutOperation id state op := by
    simp only [adminLogoutOperation, none]
  have notPassedOn : ¬ (isAdmin state = true ∧ op.target.isSome ∧
      op.target ≠ some (toString id)) := by
    rintro ⟨isAdmin, isSome, other⟩
    rcases own.2 isAdmin with none | same
    · rw [none] at isSome
      cases isSome
    · exact other same
  simp only [handle, if_pos isOpen, routerOperation, findId_of_mem isSender member, isAccount,
    processExternalOperation, if_neg notPassedOn, processAccountOperation, own.1, admin, ite_self]
  simp only [accountLogoutOperation, connected, none]

end session

/-- The effect neither closes a socket nor releases an account. -/
def KeepsSession : SessionEffect → Prop
  | .send _ _ => True
  | .removeMind _ _ => True
  | _ => False

theorem accountLink_performAll (server : ServerRouting) {effects : List SessionEffect}
    (keeps : ∀ effect ∈ effects, KeepsSession effect) :
    (server.performAll effects).1.accountLink = server.accountLink := by
  rw [performAll_fst]
  induction effects generalizing server with
  | nil => rfl
  | cons effect rest ih =>
    have step : (server.perform effect).1.accountLink = server.accountLink := by
      have kept := keeps effect List.mem_cons_self
      cases effect with
      | send connection reply => rfl
      | removeMind id entity => exact accountLink_removeMind _ id entity
      | _ => exact kept.elim
    exact (ih (server.perform effect).1 fun other isOther =>
      keeps other (List.mem_cons_of_mem _ isOther)).trans step

section handler

variable (surroundings : Surroundings) (server : ServerRouting) (handler : Nat)

theorem accountLogoutOperation_keeps (some : op.args ≠ []) :
    ∀ effect ∈ (accountLogoutOperation handler state op).effects, KeepsSession effect := by
  unfold accountLogoutOperation
  split
  · exact fun _ none => absurd none List.not_mem_nil
  split
  · contradiction
  split
  · exact fun _ none => absurd none List.not_mem_nil
  split
  · exact fun _ none => absurd none List.not_mem_nil
  · simp [KeepsSession]

theorem adminLogoutOperation_keeps (some : op.args ≠ []) :
    ∀ effect ∈ (adminLogoutOperation surroundings server handler state op).effects,
      KeepsSession effect := by
  have own : ∀ effect ∈ (accountLogoutOperation handler state op).effects, KeepsSession effect :=
    accountLogoutOperation_keeps handler some
  unfold adminLogoutOperation
  split
  · contradiction
  split
  · exact fun _ none => absurd none List.not_mem_nil
  split
  · exact own
  split
  · split
    · next other _ _ => cases other.connection <;> simp [KeepsSession]
    · exact own
  · split
    · exact fun _ none => absurd none List.not_mem_nil
    · exact own
  · exact own

/-- With an argument, an account that handles a Logout neither releases one nor closes a socket. -/
theorem routerOp_keeps (digest : String → List UInt8) {sender : String}
    (own : ForAccount op handler state) (isHandler : server.account? handler = some state)
    (coherent : server.Coherent) (isSender : integerId sender = handler)
    (connected : state.connection = some connection) (some : op.args ≠ []) :
    ∀ effect ∈ (handle digest surroundings server (.routerOp connection sender op)).effects,
      KeepsSession effect := by
  have isOpen := coherent.isOpen_of_connected isHandler connected
  have member : handler ∈ (server.table connection).routers :=
    (coherent.mem_routers_object isOpen (account?_view isHandler)).mpr connected
  simp only [handle, if_pos isOpen, routerOperation, findId_of_mem isSender member, isHandler,
    processExternalOperation]
  split
  · exact fun _ none => absurd none List.not_mem_nil
  · simp only [processAccountOperation, own.1]
    split
    · exact adminLogoutOperation_keeps surroundings server handler some
    · exact accountLogoutOperation_keeps handler some

end handler

/-- A Logout that names an account, and who handles it: the connection of the account, the account
itself, or an administrator's account.  Without an argument an account means itself. -/
inductive NamesInEvent (server : ServerRouting) (id : Nat) : SessionEvent → Prop
  | byConnection {state : AccountState} {connection : Nat} (op : ClientOp) 
      (isAccount : server.account? id = some state)
      (connected : state.connection = some connection) (names : NamesAccount op id) :
      NamesInEvent server id (.connectionOp connection op)
  | byItself {state : AccountState} {connection : Nat} (op : ClientOp) (sender : String)
      (isAccount : server.account? id = some state) (connected : state.connection = some connection)
      (isSender : integerId sender = id) (own : ForAccount op id state)
      (names : op.args = [] ∨ NamesAccount op id) :
      NamesInEvent server id (.routerOp connection sender op)
  | byAdmin {admin : Nat} {state : AccountState} {connection : Nat} (op : ClientOp)
      (sender : String) (isAccount : server.account? admin = some state)
      (isAdmin : isAdmin state = true)
      (connected : state.connection = some connection)
      (isSender : integerId sender = admin) (own : ForAccount op admin state)
      (names : NamesAccount op id) : NamesInEvent server id (.routerOp connection sender op)

/-- The account is logged out, or its socket is closed and it is logged out when the connection is
destroyed, whatever happens before that while it still has the connection. -/
def EndsSession (digest : String → List UInt8) (surroundings : Surroundings)
    (server : ServerRouting) (id : Nat) (event : SessionEvent) : Prop :=
  LoggedOut (step digest server (surroundings, event)) id ∨
    ∃ connection, server.accountLink id = some connection ∧
      .disconnect connection ∈ (handle digest surroundings server event).effects ∧
      ∀ later surroundings,
        let told := run (step digest) (step digest server (surroundings, event)) later
        told.accountLink id = some connection →
          LoggedOut (step digest told (surroundings, .close connection)) id

/-- The connection handles it, or the account does and there is no argument. -/
def EndsWhen : SessionEvent → Prop
  | .routerOp _ _ op => op.args = []
  | _ => True

theorem LoggedOut.unlinked (out : LoggedOut server id) : server.accountLink id = none := by
  obtain ⟨state, isAccount, unconnected, -⟩ := out.unconnected
  rw [accountLink_some isAccount, unconnected]

theorem not_endsSession (digest : String → List UInt8) (surroundings : Surroundings)
    {event : SessionEvent} (linked : server.accountLink id = some connection)
    (keeps : ∀ effect ∈ (handle digest surroundings server event).effects, KeepsSession effect) :
    ¬ EndsSession digest surroundings server id event := by
  rintro (out | ⟨closed, -, disconnects, -⟩)
  · have kept := congrFun (accountLink_performAll server keeps) id
    have unlinked := out.unlinked
    rw [step, kept, linked] at unlinked
    cases unlinked
  · exact keeps _ disconnects

/-- After every sequence of events: a Logout that names a connected account ends its session exactly
if the connection handles it, or the account itself without an argument. -/
theorem run_endsSession_iff (digest : String → List UInt8) (initial : Initial server)
    (events : List (Surroundings × SessionEvent)) (surroundings : Surroundings)
    (event : SessionEvent) (connected : (run (step digest) server events).accountLink id ≠ none)
    (names : NamesInEvent (run (step digest) server events) id event) :
    EndsSession digest surroundings (run (step digest) server events) id event ↔
      EndsWhen event := by
  have keeps : ∀ (current : ServerRouting) event, current.Coherent →
      (step digest current event).Coherent :=
    fun _ event coherent => coherent.step digest event
  have coherent : (run (step digest) server events).Coherent :=
    run_invariant_of_step Coherent keeps initial.coherent events
  obtain ⟨linked, isLinked⟩ := Option.ne_none_iff_exists'.mp connected
  cases names with
  | byConnection op isAccount connected names =>
    exact iff_of_true
      (.inl (connectionOp_loggedOut coherent isAccount connected digest surroundings names)) trivial
  | byItself op sender isAccount connected isSender own names =>
    by_cases none : op.args = []
    · refine iff_of_true (.inr ⟨_, (accountLink_some isAccount).trans connected, ?_, ?_⟩) none
      · rw [routerOp_disconnects coherent isAccount connected digest surroundings own isSender none]
        simp
      · intro later surroundings told linked
        obtain ⟨state, isAccount, connected⟩ := Option.bind_eq_some_iff.mp linked
        have toldCoherent : told.Coherent :=
          run_invariant_of_step Coherent keeps (coherent.step digest _) later
        exact close_loggedOut toldCoherent isAccount connected digest surroundings
    · exact iff_of_false (not_endsSession digest surroundings isLinked
        (routerOp_keeps surroundings _ id digest own isAccount coherent isSender connected none))
        none
  | byAdmin op sender isAccount isAdmin connected isSender own names =>
    have some : op.args ≠ [] := by
      obtain ⟨-, arg, rest, text, isArg, -⟩ := names
      simp [isArg]
    exact iff_of_false (not_endsSession digest surroundings isLinked
      (routerOp_keeps surroundings _ _ digest own isAccount coherent isSender connected some)) some

/-- An administrator joins the guest. -/
def wardenLogin : List (Surroundings × SessionEvent) :=
  guestLogin ++
    [(emptySurroundings, .accept true),
      (emptySurroundings, .connectionOp 3
        { classNo := .create, parent := "create", serialno := some 2, target := none
          args := [{ id := none, parent := "admin", objtype := none, loc := none, isEntity := true
                     attributes := [("username", .string "warden"),
                       ("password", .string "warden")] }] })]

/-- A Logout with the identifier of the guest. -/
def guestLogout : ClientOp :=
  { classNo := .logout, parent := "logout", serialno := some 3, target := none
    args := [{ id := some "1", parent := "", objtype := none, loc := none, isEntity := false
               attributes := [] }] }

theorem run_endsSession_guest :
    EndsSession guestDigest emptySurroundings (run (step guestDigest) guestServer wardenLogin) 1
        (.connectionOp 2 guestLogout) ↔ EndsWhen (.connectionOp 2 guestLogout) := by
  have connected : ((run (step guestDigest) guestServer wardenLogin).account? 1).bind
      AccountState.connection = some 2 := by decide +kernel
  obtain ⟨state, isAccount, isConnection⟩ := Option.bind_eq_some_iff.mp connected
  exact run_endsSession_iff guestDigest guestServer_initial wardenLogin emptySurroundings _
    (by rw [accountLink, connected]; exact Option.some_ne_none 2)
    (.byConnection guestLogout isAccount isConnection
      ⟨rfl, _, _, _, rfl, rfl, by decide +kernel⟩)

/-- An administrator logs the guest out, who is told and stays. -/
theorem logout_by_warden_not_loggedOut :
    Initial guestServer ∧
      NamesInEvent (run (step guestDigest) guestServer wardenLogin) 1
        (.routerOp 3 "4" guestLogout) ∧
      (run (step guestDigest) guestServer wardenLogin).accountLink 1 = some 2 ∧
      ¬ EndsSession guestDigest emptySurroundings (run (step guestDigest) guestServer wardenLogin) 1
        (.routerOp 3 "4" guestLogout) := by
  have linked : (run (step guestDigest) guestServer wardenLogin).accountLink 1 = some 2 := by
    decide +kernel
  have connected : ((run (step guestDigest) guestServer wardenLogin).account? 4).bind
      (fun state => if isAdmin state then state.connection else none) = some 3 := by
    decide +kernel
  obtain ⟨state, isAccount, isConnection⟩ := Option.bind_eq_some_iff.mp connected
  obtain ⟨isAdmin, isConnection⟩ := Option.ite_none_right_eq_some.mp isConnection
  have sender : integerId "4" = 4 := by decide +kernel
  have own : ForAccount guestLogout 4 state := ⟨rfl, fun _ => .inl rfl⟩
  have coherent : (run (step guestDigest) guestServer wardenLogin).Coherent :=
    run_invariant_of_step Coherent (fun _ event coherent => coherent.step guestDigest event)
      guestServer_initial.coherent wardenLogin
  exact ⟨guestServer_initial, .byAdmin guestLogout "4" isAccount isAdmin isConnection sender own
      ⟨rfl, _, _, _, rfl, rfl, by decide +kernel⟩, linked,
    not_endsSession guestDigest emptySurroundings linked
      (routerOp_keeps emptySurroundings _ 4 guestDigest own isAccount coherent sender isConnection
        (List.cons_ne_nil _ _))⟩

end ServerRouting

end Cyphesis.Server
