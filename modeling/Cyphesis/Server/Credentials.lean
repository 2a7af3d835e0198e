import Cyphesis.Server.PossessionRegistry

/-!
# Password hashes

The description of an account that goes into replies has the password hash in it. Runs that only
differ in the hash of one account are compared, as seen by a client that has not logged in to it.
-/

namespace Cyphesis.Server

open Cyphesis.Foundation List Option

variable (hidden : Nat) (hash : String)

/-- With another hash, if it is the one. -/
def AccountState.rehash (id : Nat) (state : AccountState) : AccountState :=
  { state with password := if id = hidden then hash else state.password }

def Connectable.rehash (id : Nat) : Connectable → Connectable
  | .account state => .account (state.rehash hidden hash id)
  | .juncture connection => .juncture connection

namespace ServerRouting

/-- Server with another hash for one account. -/
def withHash (server : ServerRouting) : ServerRouting :=
  { server with object := fun id => (server.object id).map (Connectable.rehash hidden hash id) }

/-- The account a Login operation names. -/
def loginTarget (server : ServerRouting) (op : ClientOp) : Option Nat :=
  op.args.head?.bind fun arg =>
    ((arg.stringAttr "username").or arg.id).bind fun username =>
      if username = "" then none else server.findAccount username

/-- No login, and no administrator. -/
def Outsider (client : Nat) (server : ServerRouting) : SessionEvent → Prop
  | .connectionOp connection op =>
    ¬ (connection = client ∧ op.classNo = .login ∧ server.loginTarget op = some hidden)
  | .routerOp connection sender _ => connection = client →
      ∀ id ∈ findId (server.table connection).routers sender, ∀ state ∈ server.account? id,
        isAdmin state = false
  | _ => True

instance (client : Nat) (server : ServerRouting) :
    ∀ event, Decidable (Outsider hidden client server event)
  | .accept _ => isTrue trivial
  | .connectionOp _ _ => inferInstanceAs (Decidable (¬ _))
  | .routerOp _ _ _ => inferInstanceAs (Decidable (_ → _))
  | .close _ => isTrue trivial
  | .entityDestroyed _ => isTrue trivial
  | .accountApplied _ _ => isTrue trivial

/-- A login comes to the same with both hashes. -/
def SameOutcome (digest : String → List UInt8) (server : ServerRouting) : SessionEvent → Prop
  | .connectionOp _ op => op.classNo = .login → server.loginTarget op = some hidden →
      ∀ arg ∈ op.args.head?, ∀ state ∈ server.account? hidden,
        verifyCredentials digest (state.rehash hidden hash hidden) arg =
          verifyCredentials digest state arg
  | _ => True

instance (digest : String → List UInt8) (server : ServerRouting) :
    ∀ event, Decidable (SameOutcome hidden hash digest server event)
  | .accept _ => isTrue trivial
  | .connectionOp _ _ => inferInstanceAs (Decidable (_ → _ → _))
  | .routerOp _ _ _ => isTrue trivial
  | .close _ => isTrue trivial
  | .entityDestroyed _ => isTrue trivial
  | .accountApplied _ _ => isTrue trivial

/-- They do not look at the account. -/
def Averted (client : Nat) : SessionEvent → Prop
  | .routerOp connection _ op => connection = client → op.classNo = .look →
      ∀ arg ∈ op.args.head?, arg.id ≠ some (toString hidden)
  | _ => True

instance (client : Nat) : ∀ event, Decidable (Averted hidden client event)
  | .accept _ => isTrue trivial
  | .connectionOp _ _ => isTrue trivial
  | .routerOp _ _ _ => inferInstanceAs (Decidable (_ → _ → _))
  | .close _ => isTrue trivial
  | .entityDestroyed _ => isTrue trivial
  | .accountApplied _ _ => isTrue trivial

/-- Operations that are sent in a run. -/
def sent (digest : String → List UInt8) :
    ServerRouting → List (Surroundings × SessionEvent) → List (Nat × Reply)
  | _, [] => []
  | server, event :: rest =>
    output digest server event ++ sent digest (step digest server event) rest

/-- What is sent to a client in a run. -/
def sentTo (digest : String → List UInt8) (client : Nat) (server : ServerRouting)
    (events : List (Surroundings × SessionEvent)) : List (Nat × Reply) :=
  (sent digest server events).filter (·.1 = client)

variable {hidden hash} {server : ServerRouting} {connection id : Nat}

section

variable (server) (id)

theorem withHash_object :
    (server.withHash hidden hash).object id =
      (server.object id).map (Connectable.rehash hidden hash id) :=
  rfl

theorem withHash_account? :
    (server.withHash hidden hash).account? id =
      (server.account? id).map (AccountState.rehash hidden hash id) := by
  unfold account?
  rw [withHash_object]
  cases server.object id with
  | none => rfl
  | some object => cases object <;> rfl

theorem withHash_getConnection :
    (server.withHash hidden hash).getConnection id = server.getConnection id := by
  unfold getConnection
  rw [withHash_object]
  cases server.object id with
  | none => rfl
  | some object => cases object <;> rfl

end

section

variable (hidden) (hash) (server)

theorem withHash_setObject (id : Nat)
    (object : Connectable) :
    (server.withHash hidden hash).setObject id (object.rehash hidden hash id) =
      (server.setObject id object).withHash hidden hash := by
  simp only [setObject, withHash]
  congr 1
  funext other
  by_cases same : other = id
  · subst same
    simp
  · simp [same]

theorem withHash_withObject
    (object : Connectable) (names : List (String × Nat)) :
    (server.withHash hidden hash).withObject (object.rehash hidden hash server.nextId) names =
      (server.withObject object names).withHash hidden hash :=
  congrArg (fun current : ServerRouting =>
    { current with names := names, nextId := server.nextId + 1 })
    (withHash_setObject hidden hash server server.nextId object)

end

theorem withHash_lobbyBroadcast (server : ServerRouting) (reply : Reply) :
    (server.withHash hidden hash).lobbyBroadcast reply = server.lobbyBroadcast reply := by
  unfold lobbyBroadcast
  simp only [withHash_getConnection]
  rfl

theorem withHash_modifyAccount (hidden : Nat) (hash : String) (server : ServerRouting) (id : Nat)
    (change : AccountState → AccountState)
    (commutes : ∀ state, change (state.rehash hidden hash id) =
      (change state).rehash hidden hash id) :
    (server.withHash hidden hash).modifyAccount id change =
      (server.modifyAccount id change).withHash hidden hash := by
  unfold modifyAccount
  rw [withHash_object]
  cases server.object id with
  | none => rfl
  | some object =>
    cases object with
    | account state =>
      simp only [map_some, Connectable.rehash, commutes]
      exact withHash_setObject hidden hash server id (.account (change state))
    | juncture held => rfl

section

variable (server)

theorem withHash_removeMindRouter (held : Option Nat) (mind : Nat) :
    (server.withHash hidden hash).removeMindRouter held mind =
      (server.removeMindRouter held mind).withHash hidden hash := by
  cases held with
  | none => rfl
  | some connection => rfl

theorem withHash_removeMindRouters (held : Option Nat)
    (minds : List (Nat × Nat)) :
    minds.foldl (fun current mind => current.removeMindRouter held mind.2)
        (server.withHash hidden hash) =
      (minds.foldl (fun current mind => current.removeMindRouter held mind.2) server).withHash
        hidden hash := by
  induction minds generalizing server with
  | nil => rfl
  | cons mind rest ih => rw [foldl_cons, withHash_removeMindRouter, ih, foldl_cons]

theorem withHash_connectObject (connection id : Nat) :
    (server.withHash hidden hash).connectObject connection id =
      (server.connectObject connection id).withHash hidden hash := by
  unfold connectObject
  rw [withHash_object]
  cases server.object id with
  | none => rfl
  | some object =>
    cases object with
    | account state =>
      exact withHash_setObject hidden hash server id
        (.account { state with connection := some connection })
    | juncture held => exact withHash_setObject hidden hash server id (.juncture (some connection))

theorem withHash_addConnectableRouter (connection id : Nat) :
    (server.withHash hidden hash).addConnectableRouter connection id =
      (server.addConnectableRouter connection id).withHash hidden hash := by
  simp only [addConnectableRouter, withHash_connectObject]
  rfl

theorem withHash_lobbyAddAccount (id : Nat) :
    (server.withHash hidden hash).lobbyAddAccount id =
      ((server.lobbyAddAccount id).1.withHash hidden hash, (server.lobbyAddAccount id).2) := by
  simp only [lobbyAddAccount, withHash_lobbyBroadcast]
  rfl

theorem withHash_lobbyRemoveAccount (id : Nat) :
    (server.withHash hidden hash).lobbyRemoveAccount id =
      ((server.lobbyRemoveAccount id).1.withHash hidden hash,
        (server.lobbyRemoveAccount id).2) := by
  have sent : (withHash hidden hash
      { server with lobby := server.lobby.filter (· ≠ id) }).lobbyBroadcast
        (presence .disappearance id) = _ := withHash_lobbyBroadcast _ _
  have same : (server.withHash hidden hash).lobby = server.lobby := rfl
  simp only [lobbyRemoveAccount, same]
  split
  · exact Prod.ext rfl sent
  · rfl

theorem withHash_releaseObject (id : Nat) :
    (server.withHash hidden hash).releaseObject id =
      (server.releaseObject id).withHash hidden hash := by
  unfold releaseObject
  rw [withHash_object]
  cases server.object id with
  | none => rfl
  | some object =>
    cases object with
    | account state =>
      simp only [map_some, Connectable.rehash]
      rw [← withHash_setObject]
      exact congrArg (fun current => current.setObject id
        (.account { state.rehash hidden hash id with minds := [], connection := none }))
        (withHash_removeMindRouters server state.connection state.minds)
    | juncture held => exact withHash_setObject hidden hash server id (.juncture none)

theorem withHash_disconnectObject (connection id : Nat) :
    (server.withHash hidden hash).disconnectObject connection id =
      ((server.disconnectObject connection id).1.withHash hidden hash,
        (server.disconnectObject connection id).2) := by
  simp only [disconnectObject, withHash_lobbyRemoveAccount, withHash_releaseObject]
  rfl

end

theorem withHash_disconnections (connection : Nat) (ids : List Nat)
    (current : ServerRouting × List (Nat × Reply)) :
    ids.foldl (fun current id =>
        ((current.1.disconnectObject connection id).1,
          current.2 ++ (current.1.disconnectObject connection id).2))
        (current.1.withHash hidden hash, current.2) =
      let after := ids.foldl (fun current id =>
        ((current.1.disconnectObject connection id).1,
          current.2 ++ (current.1.disconnectObject connection id).2)) current
      (after.1.withHash hidden hash, after.2) := by
  induction ids generalizing current with
  | nil => rfl
  | cons first rest ih =>
    simp only [foldl_cons, withHash_disconnectObject]
    exact ih ((current.1.disconnectObject connection first).1,
      current.2 ++ (current.1.disconnectObject connection first).2)

section

variable (server)

theorem withHash_closeConnection (connection : Nat) :
    (server.withHash hidden hash).closeConnection connection =
      ((server.closeConnection connection).1.withHash hidden hash,
        (server.closeConnection connection).2) :=
  withHash_disconnections connection (server.table connection).connectableRouters
    ({ server with
        connections := server.connections.filter (· ≠ connection)
        manager := (server.table connection).possessionRouters.foldl
          (fun manager id => manager.removeConnection (toString id)) server.manager }, [])

theorem withHash_setPossessionEnabled (connection : Nat) (enabled : Bool)
    (id : Nat) :
    (server.withHash hidden hash).setPossessionEnabled connection enabled id =
      (server.setPossessionEnabled connection enabled id).withHash hidden hash := by
  have manager : (server.withHash hidden hash).manager = server.manager := rfl
  have table : (server.withHash hidden hash).table = server.table := rfl
  simp only [setPossessionEnabled, manager, table]
  repeat' split
  all_goals rfl

theorem withHash_connectCharacter (id entity : Nat) :
    (server.withHash hidden hash).connectCharacter id entity =
      (server.connectCharacter id entity).withHash hidden hash := by
  unfold connectCharacter
  rw [withHash_account?]
  cases server.account? id with
  | none => rfl
  | some state =>
    simp only [map_some]
    have same : (state.rehash hidden hash id).connection = state.connection := rfl
    rw [same]
    cases state.connection with
    | none => rfl
    | some connection =>
      have grown := withHash_modifyAccount hidden hash
        (server.addRouter connection server.nextId) id
        (fun state => { state with minds := state.minds ++ [(entity, server.nextId)] })
        fun _ => rfl
      exact congrArg (fun current : ServerRouting =>
        { current with nextId := server.nextId + 1 }) grown

theorem withHash_removeMind (id entity : Nat) :
    (server.withHash hidden hash).removeMind id entity =
      (server.removeMind id entity).withHash hidden hash := by
  unfold removeMind
  rw [withHash_account?]
  cases server.account? id with
  | none => rfl
  | some state =>
    simp only [map_some]
    have fewer := withHash_modifyAccount hidden hash
      ((state.minds.filter (·.1 = entity)).foldl
        (fun current mind => current.removeMindRouter state.connection mind.2) server) id
      (fun state => { state with minds := state.minds.filter (·.1 ≠ entity) }) fun _ => rfl
    rw [← withHash_removeMindRouters] at fewer
    exact fewer

theorem withHash_destroyEntity (entity : Nat)
    (names : List (String × Nat)) :
    names.foldl (fun current name =>
        (current.removeMind name.2 entity).modifyAccount name.2 fun state =>
          { state with characters := state.characters.filter (· ≠ entity) })
        (server.withHash hidden hash) =
      (names.foldl (fun current name =>
        (current.removeMind name.2 entity).modifyAccount name.2 fun state =>
          { state with characters := state.characters.filter (· ≠ entity) }) server).withHash
        hidden hash := by
  induction names generalizing server with
  | nil => rfl
  | cons name rest ih =>
    have fewer := withHash_modifyAccount hidden hash (server.removeMind name.2 entity) name.2
      (fun state => { state with characters := state.characters.filter (· ≠ entity) })
      fun _ => rfl
    rw [foldl_cons, withHash_removeMind, fewer, ih, foldl_cons]

end

theorem withHash_perform (isKnown : hidden < server.nextId) (effect : SessionEffect) :
    (server.withHash hidden hash).perform effect =
      ((server.perform effect).1.withHash hidden hash, (server.perform effect).2) := by
  have nextId : (server.withHash hidden hash).nextId = server.nextId := rfl
  have names : (server.withHash hidden hash).names = server.names := rfl
  cases effect with
  | load id => exact Prod.ext (withHash_modifyAccount hidden hash server id _ fun _ => rfl) rfl
  | createAccount connection type username passwordHash =>
    -- The new account is not the one whose hash differs.
    have other : (Connectable.account (newAccount type username passwordHash connection)).rehash
        hidden hash server.nextId =
          .account (newAccount type username passwordHash connection) := by
      simp [Connectable.rehash, AccountState.rehash, isKnown.ne']
    have created := withHash_withObject hidden hash server
      (.account (newAccount type username passwordHash connection))
      (server.names ++ [(username, server.nextId)])
    rw [other] at created
    have eq : ∀ current : ServerRouting,
        current.perform (.createAccount connection type username passwordHash) =
          ((current.withObject (.account (newAccount type username passwordHash connection))
            (current.names ++ [(username, current.nextId)])).addConnectableRouter connection
              current.nextId).lobbyAddAccount current.nextId := fun _ => rfl
    rw [eq, eq, nextId, names, created, withHash_addConnectableRouter, withHash_lobbyAddAccount]
  | login connection id =>
    simp only [perform, withHash_addConnectableRouter, withHash_lobbyAddAccount]
  | disconnectObject connection id => exact withHash_disconnectObject server connection id
  | createJuncture connection =>
    have created := withHash_withObject hidden hash server (.juncture (some connection))
      server.names
    have eq : ∀ current : ServerRouting, current.perform (.createJuncture connection) =
        ((current.withObject (.juncture (some connection)) current.names).addConnectableRouter
          connection current.nextId, []) := fun _ => rfl
    rw [eq, eq, nextId, names, ← withHash_addConnectableRouter, ← created]
    rfl
  | connectCharacter id entity => exact Prod.ext (withHash_connectCharacter server id entity) rfl
  | removeMind id entity => exact Prod.ext (withHash_removeMind server id entity) rfl
  | setPossessionEnabled connection enabled id =>
    exact Prod.ext (withHash_setPossessionEnabled server connection enabled id) rfl
  | addCharacter id entity =>
    exact Prod.ext (withHash_modifyAccount hidden hash server id _ fun _ => rfl) rfl
  | destroyEntity entity => exact Prod.ext (withHash_destroyEntity server entity server.names) rfl
  | openConnection trusted => rfl
  | closeConnection connection => exact withHash_closeConnection server connection
  | disconnect connection => rfl
  | send connection reply => rfl
  | lobbyBroadcast reply => exact Prod.ext rfl (withHash_lobbyBroadcast server reply)

section handlers

variable (digest : String → List UInt8) (surroundings : Surroundings) (state : AccountState)
  (op : ClientOp)

theorem rehash_of_ne (different : id ≠ hidden) : state.rehash hidden hash id = state := by
  simp [AccountState.rehash, different]

theorem withHash_adminLogoutOperation :
    adminLogoutOperation surroundings (server.withHash hidden hash) id
        (state.rehash hidden hash id) op =
      adminLogoutOperation surroundings server id state op := by
  unfold adminLogoutOperation
  split
  · rfl
  split
  · rfl
  next text _ =>
    split
    · rfl
    rw [withHash_object]
    cases server.object (integerId text).toNat with
    | none => rfl
    | some object =>
      cases object with
      | account other => rfl
      | juncture held => rfl

theorem withHash_lobbyOperation (kind : ReplyKind) (recipient : String) :
    lobbyOperation surroundings (server.withHash hidden hash) kind id op recipient =
      lobbyOperation surroundings server kind id op recipient := by
  have lobby : (server.withHash hidden hash).lobby = server.lobby := rfl
  simp only [lobbyOperation, lobby, withHash_getConnection]

theorem withHash_speakOperation (kind : ReplyKind) (malformed : String) (arg : Argument) :
    speakOperation surroundings (server.withHash hidden hash) kind malformed id
        (state.rehash hidden hash id) op arg =
      speakOperation surroundings server kind malformed id state op arg := by
  simp only [speakOperation, withHash_lobbyOperation]
  rfl

theorem withHash_talkOperation :
    talkOperation surroundings (server.withHash hidden hash) id (state.rehash hidden hash id) op =
      talkOperation surroundings server id state op := by
  simp only [talkOperation, withHash_speakOperation]

theorem withHash_imaginaryOperation :
    imaginaryOperation surroundings (server.withHash hidden hash) id
        (state.rehash hidden hash id) op =
      imaginaryOperation surroundings server id state op := by
  simp only [imaginaryOperation, withHash_speakOperation]

theorem withHash_lookOperation
    (averted : ∀ arg ∈ op.args.head?, arg.id ≠ some (toString hidden)) :
    lookOperation surroundings (server.withHash hidden hash) id (state.rehash hidden hash id) op =
      lookOperation surroundings server id state op := by
  have lobby : (server.withHash hidden hash).lobby = server.lobby := rfl
  have connection : (state.rehash hidden hash id).connection = state.connection := rfl
  have characters : (state.rehash hidden hash id).characters = state.characters := rfl
  simp only [lookOperation, lobby, connection, characters]
  split
  · rfl
  split
  · rfl
  next arg _ isArgs =>
    split
    · rfl
    next text isText =>
      split
      · rfl
      split
      next other found =>
        have isOther : toString other = text := by simpa using find?_some found
        have different : other ≠ hidden := by
          rintro rfl
          apply averted arg
          · rw [isArgs]
            rfl
          · rw [isText, isOther]
        rw [withHash_account?]
        cases server.account? other with
        | none => rfl
        | some looked => simp only [map_some, rehash_of_ne looked different]
      · rfl

theorem withHash_processAccountOperation
    (averted : op.classNo = .look → ∀ arg ∈ op.args.head?, arg.id ≠ some (toString hidden))
    (notAdmin : isAdmin state = false) :
    processAccountOperation surroundings (server.withHash hidden hash) id
        (state.rehash hidden hash id) op =
      processAccountOperation surroundings server id state op := by
  have admin : isAdmin (state.rehash hidden hash id) = isAdmin state := rfl
  unfold processAccountOperation
  simp only [admin, notAdmin, Bool.false_eq_true, if_false]
  split
  · rfl
  · rfl
  · exact withHash_imaginaryOperation surroundings state op
  · rfl
  next isLook => exact withHash_lookOperation surroundings state op (averted isLook)
  · rfl
  · exact withHash_talkOperation surroundings state op
  · rfl
  · rfl
  · rfl

section

variable (server)

theorem effects_lookOperation : (lookOperation surroundings server id state op).effects = [] := by
  unfold lookOperation
  repeat' split
  all_goals rfl

theorem effects_adminGetOperation : (adminGetOperation surroundings server id op).effects = [] := by
  unfold adminGetOperation adminGetObject
  simp only
  repeat' split
  all_goals rfl

end

theorem effects_processAccountOperation :
    (processAccountOperation surroundings (server.withHash hidden hash) id
        (state.rehash hidden hash id) op).effects =
      (processAccountOperation surroundings server id state op).effects := by
  have admin : isAdmin (state.rehash hidden hash id) = isAdmin state := rfl
  unfold processAccountOperation
  simp only [admin]
  split
  · rfl
  · split
    · rw [effects_adminGetOperation, effects_adminGetOperation]
    · rfl
  · rw [withHash_imaginaryOperation]
  · split
    · rw [withHash_adminLogoutOperation]
    · rfl
  · rw [effects_lookOperation, effects_lookOperation]
  · rfl
  · rw [withHash_talkOperation]
  · rfl
  · rfl
  · rfl

theorem withHash_loginOperation (connection : Nat)
    (same : server.loginTarget op = some hidden → ∀ arg ∈ op.args.head?,
      ∀ state ∈ server.account? hidden,
        verifyCredentials digest (state.rehash hidden hash hidden) arg =
          verifyCredentials digest state arg) :
    (loginOperation digest surroundings (server.withHash hidden hash) connection op).effects =
        (loginOperation digest surroundings server connection op).effects ∧
      (server.loginTarget op ≠ some hidden →
        loginOperation digest surroundings (server.withHash hidden hash) connection op =
          loginOperation digest surroundings server connection op) := by
  have names : ∀ username, (server.withHash hidden hash).findAccount username =
      server.findAccount username := fun _ => rfl
  unfold loginOperation
  simp only [names]
  split
  · exact ⟨rfl, fun _ => rfl⟩
  next arg rest isArgs =>
    split
    · exact ⟨rfl, fun _ => rfl⟩
    next username isUsername =>
      split
      · exact ⟨rfl, fun _ => rfl⟩
      next notEmpty =>
        split
        · exact ⟨rfl, fun _ => rfl⟩
        next id found =>
          have target : server.loginTarget op = some id := by
            simp [loginTarget, isArgs, isUsername, notEmpty, found]
          rw [withHash_account?]
          cases isAccount : server.account? id with
          | none => exact ⟨rfl, fun _ => rfl⟩
          | some state =>
            simp only [map_some]
            have connection' : (state.rehash hidden hash id).connection = state.connection := rfl
            by_cases isHidden : id = hidden
            · subst isHidden
              have verified := same target arg (by rw [isArgs]; rfl) state isAccount
              rw [verified, connection']
              constructor
              · split
                · rfl
                split
                · rfl
                · rfl
              · intro different
                exact absurd target different
            · rw [rehash_of_ne state isHidden]
              exact ⟨rfl, fun _ => rfl⟩

theorem withHash_connectionOperation (connection : Nat)
    (same : op.classNo = .login → server.loginTarget op = some hidden → ∀ arg ∈ op.args.head?,
      ∀ state ∈ server.account? hidden,
        verifyCredentials digest (state.rehash hidden hash hidden) arg =
          verifyCredentials digest state arg) :
    (connectionOperation digest surroundings (server.withHash hidden hash) connection op).effects =
        (connectionOperation digest surroundings server connection op).effects ∧
      ((op.classNo = .login → server.loginTarget op ≠ some hidden) →
        connectionOperation digest surroundings (server.withHash hidden hash) connection op =
          connectionOperation digest surroundings server connection op) := by
  unfold connectionOperation
  split
  · exact ⟨rfl, fun _ => rfl⟩
  · exact ⟨rfl, fun _ => rfl⟩
  next isLogin =>
    obtain ⟨effects, whole⟩ :=
      withHash_loginOperation digest surroundings op connection (same isLogin)
    exact ⟨effects, fun outsider => whole (outsider isLogin)⟩
  · exact ⟨rfl, fun _ => rfl⟩
  · exact ⟨rfl, fun _ => rfl⟩
  · exact ⟨rfl, fun _ => rfl⟩

theorem withHash_routerOperation (hidden : Nat) (hash : String) (server : ServerRouting)
    (connection : Nat) (sender : String) :
    (routerOperation surroundings (server.withHash hidden hash) connection sender op).effects =
        (routerOperation surroundings server connection sender op).effects ∧
      ((∀ id ∈ findId (server.table connection).routers sender, ∀ state ∈ server.account? id,
        isAdmin state = false) →
        (op.classNo = .look → ∀ arg ∈ op.args.head?, arg.id ≠ some (toString hidden)) →
        routerOperation surroundings (server.withHash hidden hash) connection sender op =
          routerOperation surroundings server connection sender op) := by
  have table : (server.withHash hidden hash).table = server.table := rfl
  unfold routerOperation
  rw [table]
  cases found : findId (server.table connection).routers sender with
  | none => exact ⟨rfl, fun _ _ => rfl⟩
  | some id =>
    simp only
    rw [withHash_account?]
    cases isAccount : server.account? id with
    | none => exact ⟨rfl, fun _ _ => rfl⟩
    | some state =>
      simp only [map_some]
      have admin : isAdmin (state.rehash hidden hash id) = isAdmin state := rfl
      unfold processExternalOperation
      rw [admin]
      split
      · exact ⟨rfl, fun _ _ => rfl⟩
      · apply And.intro (effects_processAccountOperation surroundings state op)
        intro notAdmin averted
        exact withHash_processAccountOperation surroundings state op averted
          (notAdmin id rfl state isAccount)

end handlers

/-! ## Events -/

/-- They differ in what goes to others. -/
def Alike (client : Nat) (first second : SessionEffect) : Prop :=
  first = second ∨ ∃ connection reply reply', connection ≠ client ∧
    first = .send connection reply ∧ second = .send connection reply'

variable {client : Nat}

theorem alike_refl (effects : List SessionEffect) : List.Forall₂
    (Alike client) effects effects := by
  induction effects with
  | nil => exact .nil
  | cons effect rest ih => exact .cons (.inl rfl) ih

theorem alike_accountApplied (surroundings : Surroundings) (username : String) (entity : Nat)
    (apart : server.accountLink hidden ≠ some client) :
    List.Forall₂ (Alike client)
      (accountApplied surroundings (server.withHash hidden hash) username entity).effects
      (accountApplied surroundings server username entity).effects := by
  have names : (server.withHash hidden hash).findAccount username =
      server.findAccount username := rfl
  unfold accountApplied
  rw [names]
  cases server.findAccount username with
  | none => exact .nil
  | some id =>
    simp only
    rw [withHash_account?]
    cases isAccount : server.account? id with
    | none => exact .nil
    | some state =>
      simp only [map_some]
      by_cases isHidden : id = hidden
      · subst isHidden
        have same : (state.rehash id hash id).connection = state.connection := rfl
        rw [same]
        rw [accountLink_some isAccount] at apart
        cases connected : state.connection with
        | none => exact alike_refl _
        | some connection =>
          have elsewhere : connection ≠ client := by
            rintro rfl
            exact apart connected
          exact .cons (.inl rfl) (.cons (.inl rfl)
            (.cons (.inr ⟨connection, _, _, elsewhere, rfl, rfl⟩) .nil))
      · rw [rehash_of_ne state isHidden]
        exact alike_refl _

/-- Alike but for others' messages. -/
theorem handle_alike (digest : String → List UInt8) (event : Surroundings × SessionEvent)
    (apart : server.accountLink hidden ≠ some client)
    (outsider : Outsider hidden client server event.2)
    (same : SameOutcome hidden hash digest server event.2)
    (averted : Averted hidden client event.2) :
    let first := handle digest event.1 (server.withHash hidden hash) event.2
    let second := handle digest event.1 server event.2
    List.Forall₂ (Alike client) first.effects second.effects ∧
      (answers event.2 first.res).filter (·.1 = client) =
        (answers event.2 second.res).filter (·.1 = client) := by
  have nothing : ∀ (connection : Nat) (op : ClientOp) (res : List Reply), connection ≠ client →
      (res.map fun reply => (connection, { reply with refno := reply.refno.or op.serialno })).filter
        (·.1 = client) = [] := by
    intro connection op res different
    simp [different]
  obtain ⟨surroundings, event⟩ := event
  have connections : (server.withHash hidden hash).connections = server.connections := rfl
  cases event with
  | accept trusted => exact ⟨alike_refl _, rfl⟩
  | connectionOp connection op =>
    simp only [handle, connections]
    split
    · obtain ⟨effects, whole⟩ := withHash_connectionOperation digest surroundings op connection same
      rw [effects]
      apply And.intro (alike_refl _)
      by_cases own : connection = client
      · rw [whole fun isLogin isTarget => outsider ⟨own, isLogin, isTarget⟩]
      · simp only [answers]
        rw [nothing _ _ _ own, nothing _ _ _ own]
    · exact ⟨alike_refl _, rfl⟩
  | routerOp connection sender op =>
    simp only [handle, connections]
    split
    · obtain ⟨effects, whole⟩ := withHash_routerOperation surroundings op hidden hash
        server connection sender
      rw [effects]
      apply And.intro (alike_refl _)
      by_cases own : connection = client
      · rw [whole (outsider own) (averted own)]
      · simp only [answers]
        rw [nothing _ _ _ own, nothing _ _ _ own]
    · exact ⟨alike_refl _, rfl⟩
  | close connection => exact ⟨alike_refl _, rfl⟩
  | entityDestroyed entity => exact ⟨alike_refl _, rfl⟩
  | accountApplied username entity =>
    exact ⟨alike_accountApplied surroundings username entity apart, rfl⟩

section

variable (server) (effect : SessionEffect)

theorem performAll_cons
    (rest : List SessionEffect) :
    server.performAll (effect :: rest) =
      (((server.perform effect).1.performAll rest).1,
        (server.perform effect).2 ++ ((server.perform effect).1.performAll rest).2) := by
  have each : ∀ (effects : List SessionEffect) (current : ServerRouting)
      (before : List (Nat × Reply)),
      effects.foldl (fun current effect =>
        ((current.1.perform effect).1, current.2 ++ (current.1.perform effect).2))
          (current, before) =
        ((current.performAll effects).1, before ++ (current.performAll effects).2) := by
    intro effects
    induction effects with
    | nil => simp [performAll]
    | cons effect rest ih =>
      intro current before
      have unfolded : current.performAll (effect :: rest) =
          ((current.perform effect).1.performAll rest |>.1,
            (current.perform effect).2 ++ ((current.perform effect).1.performAll rest).2) :=
        ih (current.perform effect).1 ([] ++ (current.perform effect).2)
      rw [foldl_cons, ih, unfolded, append_assoc]
  exact each rest (server.perform effect).1 (server.perform effect).2

theorem perform_nextId : server.nextId ≤ (server.perform effect).1.nextId := by
  have released : ∀ (current : ServerRouting) (connection id : Nat),
      (current.disconnectObject connection id).1.nextId = current.nextId := by
    intro current connection id
    have eq : (current.disconnectObject connection id).1.nextId =
        ((current.lobbyRemoveAccount id).1.releaseObject id).nextId := rfl
    rw [eq, lobbyRemoveAccount_fst]
    unfold releaseObject
    split
    · simp only [removeMindRouters]
      rfl
    · rfl
    · rfl
  have removed : ∀ (current : ServerRouting) (id entity : Nat),
      (current.removeMind id entity).nextId = current.nextId := by
    intro current id entity
    cases isAccount : current.account? id with
    | none => simp only [removeMind, isAccount]
    | some state => rw [removeMind_eq isAccount]
  cases effect with
  | load id => exact (modifyAccount_frame server id _).2.2.1.ge
  | createAccount connection type username passwordHash =>
    have eq : (server.perform (.createAccount connection type username passwordHash)).1.nextId =
        server.nextId + 1 := connectObject_nextId
    rw [eq]
    exact Nat.le_succ _
  | login connection id => exact connectObject_nextId.ge
  | disconnectObject connection id => exact (released server connection id).ge
  | createJuncture connection =>
    have eq : (server.perform (.createJuncture connection)).1.nextId = server.nextId + 1 :=
      connectObject_nextId
    rw [eq]
    exact Nat.le_succ _
  | connectCharacter id entity =>
    cases isAccount : server.account? id with
    | none => simp only [perform, connectCharacter, isAccount, le_refl]
    | some state =>
      cases connected : state.connection with
      | none => simp only [perform, connectCharacter, isAccount, connected, le_refl]
      | some connection =>
        have eq := congrArg ServerRouting.nextId (connectCharacter_eq isAccount connected entity)
        exact (Nat.le_succ _).trans eq.ge
  | removeMind id entity => exact (removed server id entity).ge
  | setPossessionEnabled connection enabled id =>
    obtain ⟨manager, possessionRouters, eq⟩ :=
      setPossessionEnabled_eq server connection enabled id
    exact (congrArg ServerRouting.nextId eq).ge
  | addCharacter id entity => exact (modifyAccount_frame server id _).2.2.1.ge
  | destroyEntity entity =>
    apply ge_of_eq
    exact run_invariant_of_step (fun current : ServerRouting => current.nextId = server.nextId)
      (fun current name same =>
        (modifyAccount_frame _ _ _).2.2.1.trans ((removed ..).trans same)) rfl server.names
  | openConnection trusted => exact Nat.le_succ _
  | closeConnection connection =>
    apply ge_of_eq
    apply (congrArg ServerRouting.nextId (closeConnection_fst server connection)).trans
    unfold disconnectAll
    refine run_invariant_of_step (fun current : ServerRouting => current.nextId = server.nextId)
      ?_ ?_ _
    · intro current id same
      exact (released current connection id).trans same
    · rfl
  | disconnect connection => exact le_rfl
  | send connection reply => exact le_rfl
  | lobbyBroadcast reply => exact le_rfl

end

/-- Only a login connects an account. -/
theorem accountLink_perform {effect : SessionEffect} (coherent : server.Coherent)
    (permitted : server.Permitted effect) (isKnown : hidden < server.nextId)
    (apart : server.accountLink hidden ≠ some client) (noLogin : effect ≠ .login client hidden) :
    (server.perform effect).1.accountLink hidden ≠ some client := by
  have kept : ∀ {after : ServerRouting}, after.accountLink = server.accountLink →
      after.accountLink hidden ≠ some client := by
    intro after same
    rw [same]
    exact apart
  have updated : ∀ {after : ServerRouting} {id : Nat} {linked : Option Nat},
      after.accountLink = Function.update server.accountLink id linked →
      (id = hidden → linked ≠ some client) → after.accountLink hidden ≠ some client := by
    intro after id linked eq other
    rw [eq]
    by_cases same : id = hidden
    · subst same
      rw [Function.update_self]
      exact other rfl
    · rw [Function.update_of_ne (Ne.symm same)]
      exact apart
  cases effect with
  | load id => exact kept (accountLink_modifyAccount _ _ fun _ => rfl)
  | createAccount connection type username passwordHash =>
    exact updated (accountLink_withObject server _ _ connection) fun same => absurd same isKnown.ne'
  | login connection id =>
    obtain ⟨_, state, isAccount, _⟩ := permitted
    apply updated (accountLink_addConnectableRouter (account?_object isAccount) connection)
    rintro rfl isClient
    exact noLogin (by rw [Option.some.inj isClient])
  | disconnectObject connection id =>
    obtain ⟨isOpen, member⟩ := permitted
    obtain ⟨view, isView, connected⟩ := (coherent.connectable connection isOpen id).mp member
    obtain ⟨object, isObject, rfl⟩ := Option.map_eq_some_iff.mp isView
    apply updated (accountLink_update (coherent.disconnectObject isObject (.inl connected)).2)
    simp
  | createJuncture connection =>
    exact updated (accountLink_withObject server _ _ connection) fun same => absurd same isKnown.ne'
  | connectCharacter id entity => exact kept (accountLink_connectCharacter ..)
  | removeMind id entity => exact kept (accountLink_removeMind ..)
  | setPossessionEnabled connection enabled id =>
    exact kept (setPossessionEnabled_frame server connection enabled id).1
  | addCharacter id entity => exact kept (accountLink_modifyAccount _ _ fun _ => rfl)
  | destroyEntity entity => exact kept (destroyEntity_frame server entity).1
  | openConnection trusted => exact apart
  | closeConnection connection =>
    intro linked
    exact apart ((accountLink_closeConnection coherent permitted hidden client).mp linked).1
  | disconnect connection => exact apart
  | send connection reply => exact apart
  | lobbyBroadcast reply => exact apart

/-- A handler logs nobody in. -/
def Handled.NoLogin (handled : Handled) : Prop :=
  ∀ connection id, SessionEffect.login connection id ∉ handled.effects

theorem Handled.Harmless.noLogin {handled : Handled} (harmless : handled.Harmless) :
    handled.NoLogin := by
  intro connection id member
  have permitted := harmless _ member
    ⟨fun _ => none, [], [], fun _ => ⟨false, [], [], []⟩, [], .initial, 0⟩
  cases permitted.1

section logins

variable (digest : String → List UInt8) (surroundings : Surroundings) (server : ServerRouting)
  (connection id : Nat) (state : AccountState) (op : ClientOp)

theorem noLogin_createOperation :
    (createOperation digest surroundings server connection op).NoLogin := by
  intro other id
  unfold createOperation
  repeat' split
  all_goals simp [Handled.reply]

theorem noLogin_logoutOperation : (logoutOperation server connection op).NoLogin := by
  intro other id
  unfold logoutOperation
  repeat' split
  all_goals simp [Handled.reply]

theorem noLogin_adminCreateOperation :
    (adminCreateOperation surroundings server id state op).NoLogin := by
  intro other target
  have passed := (harmless_accountCreateOperation surroundings id op).noLogin other target
  unfold adminCreateOperation
  repeat' split
  all_goals simp [Handled.reply, accountError, passed]

theorem noLogin_adminSetOperation : (adminSetOperation surroundings id state op).NoLogin := by
  intro other target
  unfold adminSetOperation setAttribute
  repeat' split
  all_goals simp [Handled.reply, accountError]

theorem noLogin_processAccountOperation :
    (processAccountOperation surroundings server id state op).NoLogin := by
  unfold processAccountOperation
  split
  · split
    · exact noLogin_adminCreateOperation surroundings server id state op
    · exact (harmless_accountCreateOperation surroundings id op).noLogin
  · split
    · exact (harmless_adminGetOperation surroundings server id op).noLogin
    · exact (harmless_nil _).noLogin
  · exact (harmless_imaginaryOperation surroundings server id state op).noLogin
  · split
    · exact (harmless_adminLogoutOperation surroundings server id state op).noLogin
    · exact (harmless_accountLogoutOperation id state op).noLogin
  · exact (harmless_lookOperation surroundings server id state op).noLogin
  · split
    · exact noLogin_adminSetOperation surroundings id state op
    · exact (harmless_nil _).noLogin
  · exact (harmless_talkOperation surroundings server id state op).noLogin
  · exact (harmless_nil _).noLogin
  · exact (harmless_possessOperation surroundings server id state op).noLogin
  · split
    · exact (harmless_nil _).noLogin
    · exact (harmless_reply _).noLogin

theorem noLogin_routerOperation (sender : String) :
    (routerOperation surroundings server connection sender op).NoLogin := by
  unfold routerOperation processExternalOperation
  split
  · exact (harmless_reply _).noLogin
  split
  · split
    · exact (harmless_nil _).noLogin
    · apply noLogin_processAccountOperation
  · exact (harmless_nil _).noLogin

theorem mem_loginOperation {other target : Nat}
    (member : SessionEffect.login other target ∈
      (loginOperation digest surroundings server connection op).effects) :
    other = connection ∧ server.loginTarget op = some target := by
  unfold loginOperation at member
  split at member
  · cases member
  next arg rest isArgs =>
    split at member
    · cases member
    next username isUsername =>
      split at member
      · cases member
      next notEmpty =>
        split at member
        · cases member
        next id found =>
          split at member
          · cases member
          · split at member
            · simp at member
            · split at member
              · simp at member
              · obtain ⟨rfl, rfl⟩ : other = connection ∧ target = id := by simpa using member
                exact ⟨rfl, by simp [loginTarget, isArgs, isUsername, notEmpty, found]⟩

theorem noLogin_handle {event : SessionEvent} (outsider : Outsider hidden client server event) :
    SessionEffect.login client hidden ∉ (handle digest surroundings server event).effects := by
  intro member
  unfold handle at member
  split at member
  · simp at member
  next connection op =>
    split at member
    · unfold connectionOperation at member
      split at member
      · exact noLogin_createOperation digest surroundings server connection op _ _ member
      · exact (harmless_getOperation surroundings op).noLogin _ _ member
      next isLogin =>
        obtain ⟨own, target⟩ :=
          mem_loginOperation digest surroundings server connection op member
        exact outsider ⟨own.symm, isLogin, target⟩
      · exact noLogin_logoutOperation server connection op _ _ member
      · cases member
      · cases member
    · cases member
  · split at member
    · exact noLogin_routerOperation surroundings server _ _ _ _ _ member
    · cases member
  · split at member
    · simp at member
    · cases member
  · simp at member
  · exact (harmless_accountApplied surroundings server _ _).noLogin _ _ member

end logins

theorem performAll_alike (hash : String) {effects effects' : List SessionEffect}
    (alike : List.Forall₂ (Alike client) effects' effects) (isKnown : hidden < server.nextId) :
    ((server.withHash hidden hash).performAll effects').1 =
        (server.performAll effects).1.withHash hidden hash ∧
      ((server.withHash hidden hash).performAll effects').2.filter (·.1 = client) =
        (server.performAll effects).2.filter (·.1 = client) := by
  induction alike generalizing server with
  | nil => exact ⟨rfl, rfl⟩
  | @cons effect' effect rest' rest same _ ih =>
    rw [performAll_cons, performAll_cons]
    have known : hidden < (server.perform effect).1.nextId :=
      lt_of_lt_of_le isKnown (perform_nextId server effect)
    obtain ⟨state, outputs⟩ := ih known
    have here : ((server.withHash hidden hash).perform effect').1 =
          (server.perform effect).1.withHash hidden hash ∧
        ((server.withHash hidden hash).perform effect').2.filter (·.1 = client) =
          (server.perform effect).2.filter (·.1 = client) := by
      rcases same with rfl | ⟨connection, reply, reply', different, rfl, rfl⟩
      · rw [withHash_perform isKnown]
        exact ⟨rfl, rfl⟩
      · refine ⟨rfl, ?_⟩
        simp [perform, different]
    obtain ⟨first, firstOutputs⟩ := here
    rw [first]
    exact ⟨state, by rw [filter_append, filter_append, firstOutputs, outputs]⟩

variable (hidden hash client) in
/-- The client keeps away from the account. -/
def Discreet (digest : String → List UInt8) (server : ServerRouting)
    (event : Surroundings × SessionEvent) : Prop :=
  Outsider hidden client server event.2 ∧ SameOutcome hidden hash digest server event.2 ∧
    Averted hidden client event.2

instance (digest : String → List UInt8) (server : ServerRouting)
    (event : Surroundings × SessionEvent) :
    Decidable (Discreet hidden hash client digest server event) :=
  inferInstanceAs (Decidable (_ ∧ _ ∧ _))

section

variable (digest : String → List UInt8) (coherent : server.Coherent)
  (isKnown : hidden < server.nextId) (apart : server.accountLink hidden ≠ some client)

include coherent isKnown apart

theorem apart_step
    (event : Surroundings × SessionEvent) (outsider : Outsider hidden client server event.2) :
    hidden < (step digest server event).nextId ∧
      (step digest server event).accountLink hidden ≠ some client := by
  have each : ∀ (effects : List SessionEffect) (current : ServerRouting), current.Coherent →
      Handled.Permitted ⟨effects, []⟩ current → hidden < current.nextId →
      current.accountLink hidden ≠ some client → .login client hidden ∉ effects →
      let after := run (fun current effect => (current.perform effect).1) current effects
      hidden < after.nextId ∧ after.accountLink hidden ≠ some client := by
    intro effects
    induction effects with
    | nil => exact fun _ _ _ isKnown apart _ => ⟨isKnown, apart⟩
    | cons effect rest ih =>
      rintro current coherent ⟨permitted, permittedRest⟩ isKnown apart noLogin
      apply ih _ (coherent.perform permitted) permittedRest
      · exact lt_of_lt_of_le isKnown (perform_nextId current effect)
      · apply accountLink_perform coherent permitted isKnown apart
        rintro rfl
        exact noLogin mem_cons_self
      · exact fun later => noLogin (mem_cons_of_mem effect later)
  rw [step, performAll_fst]
  exact each _ server coherent (permitted_handle digest event.1 server coherent event.2) isKnown
    apart (noLogin_handle digest event.1 server outsider)

theorem sentTo_withHash
    {events : List (Surroundings × SessionEvent)}
    (discreet : Admissible (step digest) (Discreet hidden hash client digest) server events) :
    sentTo digest client (server.withHash hidden hash) events =
      sentTo digest client server events := by
  induction events generalizing server with
  | nil => rfl
  | cons event rest ih =>
    obtain ⟨⟨outsider, same, averted⟩, discreetRest⟩ := discreet
    obtain ⟨effects, replies⟩ := handle_alike digest event apart outsider same averted
    obtain ⟨state, outputs⟩ := performAll_alike hash effects isKnown
    obtain ⟨knownNext, apartNext⟩ :=
      apart_step digest coherent isKnown apart event outsider
    have later := ih (coherent.step digest event) knownNext apartNext discreetRest
    have stepped : step digest (server.withHash hidden hash) event =
        (step digest server event).withHash hidden hash := state
    simp only [sentTo] at later
    simp only [sentTo, sent, output, filter_append, stepped, later, outputs, replies]

end

/-- Two runs that differ in the hash of one account send the same to every client that is not logged
in to it. -/
theorem run_credentials_private (digest : String → List UInt8) {start : ServerRouting}
    (initial : start.Initial) (before : List (Surroundings × SessionEvent)) {state : AccountState}
    (isAccount : (run (step digest) start before).account? hidden = some state)
    (other : state.connection ≠ some client) {events : List (Surroundings × SessionEvent)}
    (discreet : Admissible (step digest) (Discreet hidden hash client digest)
      (run (step digest) start before) events) :
    sentTo digest client ((run (step digest) start before).withHash hidden hash) events =
      sentTo digest client (run (step digest) start before) events := by
  have coherent : (run (step digest) start before).Coherent :=
    run_invariant_of_step Coherent (fun _ event coherent => coherent.step digest event)
      initial.coherent before
  apply sentTo_withHash digest coherent
  · exact coherent.known hidden _ (account?_view isAccount)
  · rw [accountLink_some isAccount]
    exact other
  · exact discreet

/-- With a salt, and without. -/
def saltedDigest (text : String) : List UInt8 :=
  if text = "guest" then [8, 78, 3, 67, 160, 72, 111, 240, 85, 48, 223, 108, 112, 92, 139, 180]
  else if text = "guestB319407EA52C01F7" then
    [98, 10, 73, 46, 183, 229, 130, 133, 208, 100, 20, 86, 144, 38, 125, 45]
  else []

/-- Hash of the same password with the salt. -/
def saltedHash : String :=
  "$1$B319407EA52C01F7$26A094E27B5E28580D4641650962D7D2"

/-- Hash of another password. -/
def otherHash : String :=
  "1232F292A7755A7A3498A4E0A408F13C"

/-- Account of a player in the database. -/
def storedPlayer (username : String) : Connectable :=
  .account
    { username := username, type := .player, password := "80E430340A84F60F5503FDC607C5B84B",
      loaded := false, connection := none, minds := [], characters := [] }

/-- The account of another is there, too. -/
def aliceServer : ServerRouting :=
  { guestServer with
    object := fun id =>
      if id = 1 then some (storedPlayer "guest")
      else if id = 2 then some (storedPlayer "alice") else none
    names := [("guest", 1), ("alice", 2)]
    nextId := 3 }

def login (connection : Nat) (username : String) : Surroundings × SessionEvent :=
  (emptySurroundings, .connectionOp connection
    { classNo := .login, parent := "login", serialno := some 1, target := none
      args := [{ id := none, parent := "", objtype := none, loc := none, isEntity := true
                 attributes := [("username", .string username), ("password", .string "guest")] }] })

/-- The guest, and another, log in. -/
def bothLogins : List (Surroundings × SessionEvent) :=
  [(emptySurroundings, .accept false), (emptySurroundings, .accept false), login 3 "guest",
    login 4 "alice"]

/-- An account looks at another. -/
def lookAt (connection : Nat) (sender target : String) : Surroundings × SessionEvent :=
  (emptySurroundings, .routerOp connection sender
    { classNo := .look, parent := "look", serialno := some 2, target := none
      args := [Registry.argument target []] })

theorem aliceServer_initial : aliceServer.Initial := by
  constructor
  · intro id object isObject
    simp only [aliceServer] at isObject
    split at isObject
    next same =>
      subst same
      obtain rfl := Option.some.inj isObject
      exact ⟨by decide, rfl, rfl⟩
    · split at isObject
      next same =>
        subst same
        obtain rfl := Option.some.inj isObject
        exact ⟨by decide, rfl, rfl⟩
      · cases isObject
  · rfl
  · rfl

/-- Hashes in the operations. -/
def hashes (replies : List (Nat × Reply)) : List String :=
  replies.flatMap fun reply => reply.2.args.filterMap fun arg =>
    match arg with
    | .account description => description.password
    | _ => none

theorem run_credentials_private_guest :
    sentTo saltedDigest 3 (aliceServer.withHash 2 saltedHash) (bothLogins ++ [lookAt 3 "1" "1"]) =
      sentTo saltedDigest 3 aliceServer (bothLogins ++ [lookAt 3 "1" "1"]) := by
  have isAccount : (run (step saltedDigest) aliceServer []).account? 2 = some _ := rfl
  exact run_credentials_private saltedDigest aliceServer_initial [] isAccount (by decide)
    (by decide +kernel)

/-- Others see who logs in, and the hash. -/
theorem credentials_not_private :
    (Admissible (step saltedDigest) (fun server event => Outsider 2 3 server event.2) aliceServer
        bothLogins ∧
      sentTo saltedDigest 3 (aliceServer.withHash 2 otherHash) bothLogins ≠
        sentTo saltedDigest 3 aliceServer bothLogins) ∧
    (Admissible (step saltedDigest) (fun server event => Outsider 2 3 server event.2) aliceServer
        (bothLogins ++ [lookAt 3 "1" "2"]) ∧
      sentTo saltedDigest 3 (aliceServer.withHash 2 saltedHash) (bothLogins ++ [lookAt 3 "1" "2"]) ≠
        sentTo saltedDigest 3 aliceServer (bothLogins ++ [lookAt 3 "1" "2"])) := by
  refine ⟨⟨by decide +kernel, ?_⟩, by decide +kernel, ?_⟩
  · intro same
    have lengths : (sentTo saltedDigest 3 (aliceServer.withHash 2 otherHash) bothLogins).length ≠
        (sentTo saltedDigest 3 aliceServer bothLogins).length := by
      decide +kernel
    exact lengths (congrArg List.length same)
  · intro same
    have different : hashes (sentTo saltedDigest 3 (aliceServer.withHash 2 saltedHash)
          (bothLogins ++ [lookAt 3 "1" "2"])) ≠
        hashes (sentTo saltedDigest 3 aliceServer (bothLogins ++ [lookAt 3 "1" "2"])) := by
      decide +kernel
    exact different (congrArg hashes same)

/-- The account, if any, has this hash. -/
def HasHash (id : Nat) (hash : String) (server : ServerRouting) : Prop :=
  id < server.nextId ∧ server.withHash id hash = server

theorem HasHash.step (has : server.HasHash id hash) (digest : String → List UInt8)
    (event : Surroundings × SessionEvent) : (step digest server event).HasHash id hash := by
  rw [ServerRouting.step, performAll_fst]
  refine run_invariant_of_step (HasHash id hash) (fun current effect has => ?_) has _
  have commutes : (current.withHash id hash).perform effect = _ := withHash_perform has.1 effect
  rw [has.2] at commutes
  exact ⟨has.1.trans_le (perform_nextId current effect), (congrArg Prod.fst commutes).symm⟩

theorem withHash_of_account? {state : AccountState} (isState : server.account? id = some state) :
    server.withHash id state.password = server := by
  have objects : (server.withHash id state.password).object = server.object := by
    funext other
    rw [withHash_object]
    by_cases same : other = id
    · simp [same, account?_object isState, Connectable.rehash, AccountState.rehash]
    · rcases server.object other with _ | _ | _ <;>
        simp [Connectable.rehash, AccountState.rehash, same]
  calc server.withHash id state.password
      = { server with object := (server.withHash id state.password).object } := rfl
    _ = server := by rw [objects]

/-- Accounts that were there have their hashes. -/
def KeepsHashes (before after : ServerRouting) : Prop :=
  ∀ id < before.nextId, ∀ state later, before.account? id = some state →
    after.account? id = some later → later.password = state.password

/-- No sequence of events changes a stored hash. -/
theorem run_keepsHashes (digest : String → List UInt8) (server : ServerRouting)
    (events : List (Surroundings × SessionEvent)) :
    server.KeepsHashes (run (step digest) server events) := by
  intro id isKnown state later isState isLater
  have has := run_invariant_of_step (HasHash id state.password)
    (fun _ event has => has.step digest event) ⟨isKnown, withHash_of_account? isState⟩ events
  generalize run (step digest) server events = after at has isLater
  have same : (after.withHash id state.password).account? id = _ := withHash_account? after id
  rw [has.2, isLater] at same
  simpa [AccountState.rehash] using congrArg AccountState.password (Option.some.inj same)

end ServerRouting

end Cyphesis.Server
