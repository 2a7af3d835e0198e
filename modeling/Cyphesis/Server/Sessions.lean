import Cyphesis.Server.Routing

/-!
# Sessions

What connections and accounts do with the operations of their clients.  A handler results in the
list of the operations it sends and the functions it calls, which are carried out in order.

What they read in the world, the ruleset and the possession keys is given with the operation, as is
what comes of an operation that is passed on to an entity, a mind or a juncture.
-/

namespace Cyphesis.Server

open Cyphesis.Atlas
open Cyphesis.Foundation

/-- `std::stol`: blanks, sign, digits. -/
def stol (text : String) : Option Int :=
  let trimmed := text.toList.dropWhile fun character =>
    character == ' ' || ('\t' ≤ character && character ≤ '\r')
  let unsigned := if trimmed.head? = some '-' ∨ trimmed.head? = some '+' then trimmed.drop 1
    else trimmed
  let digits := unsigned.takeWhile Char.isDigit
  let value : Int := Nat.ofDigitChars 10 digits 0
  let signed := if trimmed.head? = some '-' then -value else value
  if digits.isEmpty ∨ signed < -2 ^ 63 ∨ 2 ^ 63 ≤ signed then none else some signed

def integerId (id : String) : Int :=
  (stol id).getD (-1)

/-- What a text denotes. -/
def findId (ids : List Nat) (text : String) : Option Nat :=
  ids.find? fun id => Int.ofNat id == integerId text

/-- Length of a digest, in bytes. -/
def digestLength : Nat :=
  16

/-- `check_password`. -/
def checkPassword (digest : String → List UInt8) (password hash : String) : Bool :=
  if hash.length < digestLength * 2 + 5 ∨ (hash.take 3).toString ≠ "$1$" then
    hash = hashPassword digest password ""
  else
    match (hash.toList.drop 3).idxOf? '$' with
    | none => false
    | some position =>
      hash = hashPassword digest password (String.ofList ((hash.toList.drop 3).take position))

structure Surroundings where
  lobbyId : String
  restricted : Bool
  idAvailable : Bool
  salt : List UInt8
  /-- The spawn entities that exist. -/
  spawnEntities : List String
  /-- The values of their `__spawn` properties. -/
  spawns : List Element
  serverInfo : Element
  getClass : String → Option Element
  entity : String → Option Element
  /-- `authenticatePossession`. -/
  authenticate : String → String → Option Nat
  /-- Replies of what it is passed to. -/
  passedOn : List Reply

/-- Calls that handlers make. -/
inductive SessionEffect where
  | load (id : Nat)
  | createAccount (connection : Nat) (type : AccountType) (username hash : String)
  | login (connection id : Nat)
  | disconnectObject (connection id : Nat)
  | createJuncture (connection : Nat)
  | connectCharacter (id entity : Nat)
  | removeMind (id entity : Nat)
  | setPossessionEnabled (connection : Nat) (enabled : Bool) (id : Nat)
  | addCharacter (id entity : Nat)
  | destroyEntity (entity : Nat)
  | openConnection (trusted : Bool)
  | closeConnection (connection : Nat)
  /-- `m_connection->disconnect()` closes the socket; the event `close` follows in its own time. -/
  | disconnect (connection : Nat)
  | send (connection : Nat) (reply : Reply)
  | lobbyBroadcast (reply : Reply)

inductive SessionEvent where
  | accept (trusted : Bool)
  /-- Without a sender, for the connection. -/
  | connectionOp (connection : Nat) (op : ClientOp)
  /-- An operation is for the router of its sender. -/
  | routerOp (connection : Nat) (sender : String) (op : ClientOp)
  /-- The connection is destroyed. -/
  | close (connection : Nat)
  | entityDestroyed (entity : Nat)
  /-- `__account` is applied. -/
  | accountApplied (username : String) (entity : Nat)

namespace ServerRouting

/-- Carry it out with what is sent. -/
def perform (server : ServerRouting) : SessionEffect → ServerRouting × List (Nat × Reply)
  | .load id => (server.modifyAccount id fun state => { state with loaded := true }, [])
  | .createAccount connection type username hash =>
    let id := server.nextId
    let created : ServerRouting :=
      { server.setObject id (.account (newAccount type username hash connection)) with
        names := server.names ++ [(username, id)]
        nextId := id + 1 }
    (created.addConnectableRouter connection id).lobbyAddAccount id
  | .login connection id => (server.addConnectableRouter connection id).lobbyAddAccount id
  | .disconnectObject connection id => server.disconnectObject connection id
  | .createJuncture connection =>
    let id := server.nextId
    let created : ServerRouting :=
      { server.setObject id (.juncture (some connection)) with nextId := id + 1 }
    (created.addConnectableRouter connection id, [])
  | .connectCharacter id entity => (server.connectCharacter id entity, [])
  | .removeMind id entity => (server.removeMind id entity, [])
  | .setPossessionEnabled connection enabled id =>
    (server.setPossessionEnabled connection enabled id, [])
  | .addCharacter id entity =>
    (server.modifyAccount id fun state =>
      { state with characters := ExternalMindsManager.insert entity state.characters }, [])
  | .destroyEntity entity =>
    (server.names.foldl (fun current name =>
      (current.removeMind name.2 entity).modifyAccount name.2 fun state =>
        { state with characters := state.characters.filter (· ≠ entity) }) server, [])
  | .openConnection trusted =>
    ({ server.setTable server.nextId ⟨trusted, [], [], []⟩ with
        connections := server.connections ++ [server.nextId]
        nextId := server.nextId + 1 }, [])
  | .closeConnection connection => server.closeConnection connection
  | .disconnect _ => (server, [])
  | .send connection reply => (server, [(connection, reply)])
  | .lobbyBroadcast reply => (server, server.lobbyBroadcast reply)

/-- `Router::buildError`. -/
def error (op : ClientOp) (text : String) (recipient : Option String) : Reply :=
  { kind := .error
    refno := if recipient.isSome then op.serialno else none
    recipient := recipient
    sender := none
    args := [.message text, .op op] }

def info (args : List ReplyArg) : Reply :=
  { kind := .info, refno := none, recipient := none, sender := none, args := args }

def addToEntity (surroundings : Surroundings) (id : Nat) (state : AccountState) :
    AccountDescription :=
  { username := state.username
    password := if state.password.isEmpty then none else some state.password
    parent := state.type.getType
    spawns := if state.connection.isSome then surroundings.spawns else []
    characters := state.characters
    id := id }

/-- The calls, and what is returned. -/
structure Handled where
  effects : List SessionEffect
  res : List Reply

/-- A handler that does nothing but reply. -/
def Handled.reply (reply : Reply) : Handled :=
  ⟨[], [reply]⟩

variable (digest : String → List UInt8) (surroundings : Surroundings)

def verifyCredentials (state : AccountState) (creds : Argument) : Bool :=
  match creds.stringAttr "password" with
  | some passwd => checkPassword digest passwd state.password
  | none => false

variable (server : ServerRouting) (connection : Nat) (op : ClientOp)

def loginOperation : Handled :=
  match op.args with
  | [] => .reply (error op "Login has no argument" none)
  | arg :: _ =>
    match (arg.stringAttr "username").or arg.id with
    | none => .reply (error op "Got account Login with no username." none)
    | some username =>
      if username = "" then .reply (error op "Empty username provided for Login" none)
      else
        match server.findAccount username with
        | none => .reply (error op "Login is invalid" none)
        | some id =>
          match server.account? id with
          | none => .reply (error op "Login is invalid" none)
          | some state =>
            if verifyCredentials digest state arg = false then
              ⟨[.load id], [error op "Login is invalid" none]⟩
            else if state.connection.isSome then
              ⟨[.load id], [error op "This account is already logged in" none]⟩
            else
              ⟨[.load id, .login connection id],
                [info [.account (addToEntity surroundings id
                  { state with connection := some connection })]]⟩

/-- `newAccount` of either connection. -/
def newAccountType (trusted : Bool) (type : String) : AccountType :=
  if trusted then
    if type = "sys" then .sys else if type = "admin" then .admin else .player
  else .player

def createOperation : Handled :=
  if (server.table connection).routers ≠ [] then
    .reply (error op "This connection is already logged in" none)
  else
    match op.args with
    | [] => .reply (error op "Create has no argument" none)
    | arg :: _ =>
      if surroundings.restricted then
        .reply (error op "Account creation on this server is restricted" none)
      else
        match arg.stringAttr "username" with
        | none => .reply (error op "Got account Create with no username." none)
        | some username =>
          match arg.stringAttr "password" with
          | none => .reply (error op "No account password given" none)
          | some password =>
            if username = "" ∨ password = "" then
              .reply (error op "Account creation is invalid" none)
            else
              match server.findAccount username with
              | some id => ⟨[.load id], [error op "Account creation is invalid" none]⟩
              | none =>
                if surroundings.idAvailable = false then
                  .reply (error op "Account creation failed" none)
                else
                  let type := newAccountType (server.table connection).trusted arg.parent
                  let hash := hashPassword digest password (generateSalt surroundings.salt)
                  ⟨[.createAccount connection type username hash],
                    [info [.account (addToEntity surroundings server.nextId
                      (newAccount type username hash connection))]]⟩

def logoutOperation : Handled :=
  match op.args with
  | [] =>
    ⟨[.send connection { info [.op op] with refno := op.serialno }, .disconnect connection], []⟩
  | arg :: _ =>
    match arg.id with
    | none => .reply (error op "Got logout for entity with no ID" none)
    | some text =>
      if integerId text = -1 then
        .reply (error op "Got logout for non numeric entity ID" none)
      else
        match findId (server.table connection).connectableRouters text with
        | none =>
          .reply (error op
            ("Got logout for unknown entity ID(" ++ toString (integerId text) ++ ")") none)
        | some id =>
          ⟨[.disconnectObject connection id], [{ info [.op op] with refno := op.serialno }]⟩

def getOperation : Handled :=
  match op.args with
  | [] => .reply (info [.element surroundings.serverInfo])
  | arg :: _ =>
    match arg.id with
    | none => .reply (error op "Type definition requested with no id" none)
    | some id =>
      match surroundings.getClass id with
      | none =>
        .reply (error op ("Unknown type definition for \"" ++ id ++ "\" requested") none)
      | some description => .reply (info [.element description])

/-- `Connection::operation`. -/
def connectionOperation : Handled :=
  match op.classNo with
  | .create => createOperation digest surroundings server connection op
  | .get => getOperation surroundings op
  | .login => loginOperation digest surroundings server connection op
  | .logout => logoutOperation server connection op
  | .invalid => ⟨[], []⟩
  | _ =>
    .reply (error op
      ("Unknown operation " ++ (if op.parent = "" then "-" else op.parent) ++ " in Connection")
      none)

variable (id : Nat)

/-- Error that is sent to the account. -/
def accountError (op : ClientOp) (text : String) : Handled :=
  .reply (error op text (some (toString id)))

/-- `Account::CreateOperation` -/
def accountCreateOperation (op : ClientOp) : Handled :=
  match op.args with
  | [] => accountError id op "No arguments."
  | arg :: _ =>
    match arg.id with
    | none => accountError id op "No id in first argument."
    | some spawn =>
      if spawn ∈ surroundings.spawnEntities then ⟨[], []⟩
      else accountError id op "Could not find spawn entity."

/-- Info operation that confirms a logout. -/
def logoutInfo (op : ClientOp) : Reply :=
  { info [.op op] with
    refno := op.serialno
    recipient := some (toString id)
    sender := some (toString id) }

variable (state : AccountState)

/-- `Account::LogoutOperation`: of a mind that the argument names, or of the connection. -/
def accountLogoutOperation (op : ClientOp) : Handled :=
  match state.connection with
  | none =>
    accountError id op ("Account::LogoutOperation on account " ++ toString id ++ " (" ++
      state.username ++ ") that doesn't seem to be connected.")
  | some connection =>
    match op.args with
    | [] => ⟨[.send connection (logoutInfo id op), .disconnect connection], []⟩
    | arg :: _ =>
      match arg.id with
      | none => accountError id op "No id given on logout op"
      | some text =>
        match state.minds.find? fun mind => toString mind.2 = text with
        | none => accountError id op "Logout failed"
        | some mind =>
          ⟨[.removeMind id mind.1, .send connection (logoutInfo id op)], []⟩

/-- `Admin::LogoutOperation`: a Logout for another account is handed to its `operation`, which sends
it to the client. -/
def adminLogoutOperation (op : ClientOp) : Handled :=
  match op.args with
  | [] => accountLogoutOperation id state op
  | arg :: _ =>
    match arg.id with
    | none => accountError id op "No id given on logout op"
    | some text =>
      if text = toString id then accountLogoutOperation id state op
      else
        match server.object (integerId text).toNat with
        | some (.account other) =>
          if other.loaded = true ∧ 0 ≤ integerId text then
            ⟨(other.connection.map fun connection =>
              SessionEffect.send connection
                { kind := .forwarded, refno := none, recipient := none, sender := none,
                  args := [.op op] }).toList, []⟩
          else accountLogoutOperation id state op
        | some (.juncture _) =>
          if 0 ≤ integerId text then ⟨[], surroundings.passedOn⟩
          else accountLogoutOperation id state op
        | none => accountLogoutOperation id state op

/-- Said to the lobby, or one in it. -/
def lobbyOperation (kind : ReplyKind) (id : Nat) (op : ClientOp) (recipient : String) : Handled :=
  let spoken : Reply :=
    { kind := kind, refno := op.serialno, recipient := some recipient,
      sender := some (toString id), args := [.op op] }
  if recipient = "" ∨ recipient = surroundings.lobbyId then ⟨[.lobbyBroadcast spoken], []⟩
  else
    let absent : Handled := .reply
      { kind := .error, refno := none, recipient := none, sender := none,
        args := [.message "Target account not logged in",
          .spoken kind (toString id) recipient op] }
    match server.lobby.find? fun other => toString other = recipient with
    | none => absent
    | some other =>
      match server.getConnection other with
      | none => absent
      | some connection => ⟨[.send connection spoken], []⟩

/-- `Account::TalkOperation` and `ImaginaryOperation`. -/
def speakOperation (kind : ReplyKind) (malformed : String) (id : Nat)
    (state : AccountState) (op : ClientOp) (arg : Argument) : Handled :=
  if arg.isEntity = false then accountError id op malformed
  else if state.connection.isNone then ⟨[], []⟩
  else lobbyOperation surroundings server kind id op (arg.loc.getD (op.target.getD ""))

def talkOperation (op : ClientOp) :
    Handled :=
  match op.args with
  | [] => accountError id op "Talk has no args"
  | arg :: _ => speakOperation surroundings server .sound "Talk arg is malformed" id state op arg

def imaginaryOperation (op : ClientOp) : Handled :=
  match op.args with
  | [] => ⟨[], []⟩
  | arg :: _ =>
    speakOperation surroundings server .sight "Imaginary arg is malformed" id state op arg

/-- `Account::connectCharacter`. -/
def connectCharacterOperation (entity : Nat) : Handled :=
  if entity ∈ state.minds.map Prod.fst then ⟨[], []⟩
  else ⟨[.connectCharacter id entity], [info [.mind server.nextId entity]]⟩

def possessOperation (op : ClientOp) : Handled :=
  if state.connection.isNone then ⟨[], []⟩
  else
    match op.args with
    | [] => accountError id op "Empty args in possess op."
    | arg :: _ =>
      match arg.id with
      | none => accountError id op "No target for look"
      | some text =>
        match arg.stringAttr "possess_key" with
        | some key =>
          match surroundings.authenticate text key with
          | some entity => connectCharacterOperation server id state entity
          | none => ⟨[], []⟩
        | none =>
          match findId state.characters text with
          | some entity => connectCharacterOperation server id state entity
          | none =>
            accountError id op ("Could not find character '" ++ text ++ "' to possess.")

def accountSight (arg : ReplyArg) : Handled :=
  .reply { kind := .sight, refno := none, recipient := some (toString id), sender := none,
           args := [arg] }

/-- `Account::LookOperation`. -/
def lookOperation (op : ClientOp) :
    Handled :=
  if state.connection.isNone then ⟨[], []⟩
  else
    match op.args with
    | [] => accountSight id (.lobby server.lobby)
    | arg :: _ =>
      match arg.id with
      | none => accountError id op "No target for look"
      | some text =>
        match findId state.characters text with
        | some character =>
          accountSight id (.element ((surroundings.entity (toString character)).getD .none))
        | none =>
          match server.lobby.find? fun other => toString other = text with
          | some other =>
            match server.account? other with
            | some looked =>
              accountSight id (.account (addToEntity surroundings other looked))
            | none => accountError id op ("Unknown look target '" ++ text ++ "'.")
          | none => accountError id op ("Unknown look target '" ++ text ++ "'.")

def isAdmin : Bool :=
  state.type = .admin || state.type = .sys

/-- `Admin::CreateOperation` -/
def adminCreateOperation (op : ClientOp) : Handled :=
  match op.args with
  | [] => ⟨[], []⟩
  | arg :: _ =>
    if arg.objtype = some "class" ∨ arg.objtype = some "op_definition" then
      match arg.id with
      | none => accountError id op "Set arg has no id."
      | some _ => ⟨[], surroundings.passedOn⟩
    else if arg.parent = "juncture" then
      if surroundings.idAvailable = false then
        accountError id op "Juncture failed as no ID available"
      else
        match state.connection with
        | none => ⟨[], []⟩
        | some connection =>
          ⟨[.createJuncture connection],
            [{ info [.juncture server.nextId] with
                refno := op.serialno, recipient := some (toString id) }]⟩
    else accountCreateOperation surroundings id op

/-- `Admin::GetOperation` on an object. -/
def adminGetObject (op : ClientOp) (text : String) :
    Handled :=
  let elsewhere : Handled :=
    match surroundings.entity text with
    | some description => .reply (info [.element description])
    | none => accountError id op ("Unknown object id \"" ++ text ++ "\" requested")
  if integerId text < 0 then elsewhere
  else
    match server.object (integerId text).toNat with
    | some (.account other) =>
      if other.loaded then
        .reply (info [.account (addToEntity surroundings (integerId text).toNat other)])
      else elsewhere
    | some (.juncture _) => .reply (info [.juncture (integerId text).toNat])
    | none => elsewhere

/-- `Admin::GetOperation`. -/
def adminGetOperation (op : ClientOp) : Handled :=
  match op.args with
  | [] => accountError id op "Get has no args."
  | arg :: _ =>
    match arg.objtype with
    | none => accountError id op "Get arg has no objtype."
    | some objtype =>
      match arg.id with
      | none => accountError id op "Get arg has no id."
      | some text =>
        if text = "" then accountError id op "Get arg id empty"
        else if objtype = "object" ∨ objtype = "obj" then
          adminGetObject surroundings server id op text
        else if objtype = "class" ∨ objtype = "meta" ∨ objtype = "op_definition" then
          ⟨[], surroundings.passedOn⟩
        else
          accountError id op ("Unknown object type \"" ++ objtype ++ "\" requested for \"" ++
            text ++ "\"")

def setAttribute (arg : Argument) : Handled :=
  match arg.copyAttr "possessive" with
  | none => ⟨[], []⟩
  | some possessive =>
    match state.connection with
    | none => ⟨[], []⟩
    | some connection =>
      ⟨[.setPossessionEnabled connection
        (match possessive with
          | .int value => value ≠ 0
          | _ => false) id], []⟩

/-- A type is changed by the ruleset. -/
def adminSetOperation (op : ClientOp) : Handled :=
  match op.args with
  | [] => accountError id op "Set has no args."
  | arg :: _ =>
    match arg.objtype with
    | none => accountError id op "Set arg has no objtype."
    | some objtype =>
      match arg.id with
      | none => accountError id op "Set arg has no id."
      | some text =>
        if objtype = "object" ∨ objtype = "obj" then
          if integerId text = Int.ofNat id then setAttribute id state arg else ⟨[], []⟩
        else if objtype = "class" ∨ objtype = "op_definition" then
          ⟨[], surroundings.passedOn⟩
        else accountError id op "Unknown object type set"

/-- `Account::processExternalOperation`. -/
def processAccountOperation (op : ClientOp) : Handled :=
  match op.classNo with
  | .create =>
    if isAdmin state then adminCreateOperation surroundings server id state op
    else accountCreateOperation surroundings id op
  | .get => if isAdmin state then adminGetOperation surroundings server id op else ⟨[], []⟩
  | .imaginary => imaginaryOperation surroundings server id state op
  | .logout =>
    if isAdmin state then adminLogoutOperation surroundings server id state op
    else accountLogoutOperation id state op
  | .look => lookOperation surroundings server id state op
  | .set => if isAdmin state then adminSetOperation surroundings id state op else ⟨[], []⟩
  | .talk => talkOperation surroundings server id state op
  | .invalid => ⟨[], []⟩
  | .possess => possessOperation surroundings server id state op
  | _ =>
    if isAdmin state then ⟨[], []⟩
    else
      .reply (error op ("Unknown operation " ++ (if op.parent = "" then "-" else op.parent) ++
        " in Account " ++ toString id ++ " (" ++ state.username ++ ")") none)

/-- Of administrators too. -/
def processExternalOperation (op : ClientOp) : Handled :=
  if isAdmin state = true ∧ op.target.isSome ∧ op.target ≠ some (toString id) then
    ⟨[], if (surroundings.entity (op.target.getD "")).isSome then surroundings.passedOn else []⟩
  else processAccountOperation surroundings server id state op

/-- `Connection::dispatch`, for one of its routers. -/
def routerOperation (sender : String) (op : ClientOp) : Handled :=
  match findId (server.table connection).routers sender with
  | none =>
    .reply (error op ("Client \"" ++ op.parent ++ "\" op from \"" ++ sender ++
      "\" is from non-existent object.") (some sender))
  | some id =>
    match server.account? id with
    | some state => processExternalOperation surroundings server id state op
    | none => ⟨[], surroundings.passedOn⟩

/-- `AccountProperty::apply`. -/
def accountApplied (username : String) (entity : Nat) : Handled :=
  match server.findAccount username with
  | none => ⟨[], []⟩
  | some id =>
    match server.account? id with
    | none => ⟨[], []⟩
    | some state =>
      let grown :=
        { state with characters := ExternalMindsManager.insert entity state.characters }
      ⟨[.load id, .addCharacter id entity] ++
        (state.connection.map fun connection =>
          SessionEffect.send connection
            { kind := .sight, refno := none, recipient := some (toString id), sender := none,
              args := [.account (addToEntity surroundings id grown)] }).toList, []⟩

/-- What comes of an event. -/
def handle : SessionEvent → Handled
  | .accept trusted => ⟨[.openConnection trusted], []⟩
  | .connectionOp connection op =>
    if connection ∈ server.connections then
      connectionOperation digest surroundings server connection op
    else ⟨[], []⟩
  | .routerOp connection sender op =>
    if connection ∈ server.connections then
      routerOperation surroundings server connection sender op
    else ⟨[], []⟩
  | .close connection =>
    if connection ∈ server.connections then ⟨[.closeConnection connection], []⟩ else ⟨[], []⟩
  | .entityDestroyed entity => ⟨[.destroyEntity entity], []⟩
  | .accountApplied username entity => accountApplied surroundings server username entity

/-- Carry out calls one after the other. -/
def performAll (effects : List SessionEffect) : ServerRouting × List (Nat × Reply) :=
  effects.foldl (fun current effect =>
    ((current.1.perform effect).1, current.2 ++ (current.1.perform effect).2)) (server, [])

/-- Marked with its serial number. -/
def answers (event : SessionEvent) (res : List Reply) : List (Nat × Reply) :=
  let marked (connection : Nat) (op : ClientOp) : List (Nat × Reply) :=
    res.map fun reply => (connection, { reply with refno := reply.refno.or op.serialno })
  match event with
  | .connectionOp connection op => marked connection op
  | .routerOp connection _ op => marked connection op
  | _ => []

variable (event : Surroundings × SessionEvent)

/-- Server after an event. -/
def step : ServerRouting :=
  (server.performAll (handle digest event.1 server event.2).effects).1

/-- What is sent because of it. -/
def output : List (Nat × Reply) :=
  (server.performAll (handle digest event.1 server event.2).effects).2 ++
    answers event.2 (handle digest event.1 server event.2).res

end ServerRouting

end Cyphesis.Server
