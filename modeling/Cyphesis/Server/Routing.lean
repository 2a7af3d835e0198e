import Cyphesis.Server.ExternalMindsManager
import Cyphesis.Server.Persistence

/-!
# Connections, accounts and the lobby

A client has a connection, with its accounts, their minds, and junctures as routers on it. Accounts
that have not been asked for are in the table from the start, marked as not loaded.
-/

namespace Cyphesis.Server

open Cyphesis.Atlas
open Cyphesis.Foundation

/-- Classes that are told apart. -/
inductive ClientOpClass where
  | create
  | get
  | imaginary
  | login
  | logout
  | look
  | set
  | talk
  | possess
  | monitor
  | invalid
  | other (name : String)
  deriving DecidableEq

/-- What is read of an argument of an operation. -/
structure Argument where
  id : Option String
  parent : String
  objtype : Option String
  loc : Option String
  attributes : List (String × Element)
  isEntity : Bool

/-- An attribute of an argument. -/
def Argument.copyAttr (arg : Argument) (name : String) : Option Element :=
  (arg.attributes.find? (·.1 = name)).map Prod.snd

/-- An attribute that is a string. -/
def Argument.stringAttr (arg : Argument) (name : String) : Option String :=
  match arg.copyAttr name with
  | some (.string text) => some text
  | _ => none

structure ClientOp where
  classNo : ClientOpClass
  parent : String
  serialno : Option Int
  target : Option String
  args : List Argument

/-- What `Account::addToEntity` writes. -/
structure AccountDescription where
  username : String
  password : Option String
  parent : String
  spawns : List Element
  characters : List Nat
  id : Nat

inductive ReplyKind where
  | info
  | error
  | sight
  | sound
  | appearance
  | disappearance
  | forwarded
  deriving DecidableEq

inductive ReplyArg where
  | account (description : AccountDescription)
  | mind (id entity : Nat)
  | juncture (id : Nat)
  | lobby (people : List Nat)
  | present (id : Nat)
  | element (value : Element)
  | message (text : String)
  | op (op : ClientOp)
  /-- Sound or Sight of a client's operation. -/
  | spoken (kind : ReplyKind) (sender recipient : String) (op : ClientOp)

/-- An operation to a client. -/
structure Reply where
  kind : ReplyKind
  refno : Option Int
  recipient : Option String
  sender : Option String
  args : List ReplyArg

structure AccountState where
  username : String
  type : AccountType
  password : String
  loaded : Bool
  connection : Option Nat
  /-- By the entities they control. -/
  minds : List (Nat × Nat)
  characters : List Nat

/-- `ConnectableRouter`: an account or a juncture. -/
inductive Connectable where
  | account (state : AccountState)
  | juncture (connection : Option Nat)

/-- Tables of a connection. -/
structure ConnectionTable where
  trusted : Bool
  connectableRouters : List Nat
  routers : List Nat
  possessionRouters : List Nat

structure ServerRouting where
  object : Nat → Option Connectable
  /-- The accounts by their user names. -/
  names : List (String × Nat)
  connections : List Nat
  table : Nat → ConnectionTable
  lobby : List Nat
  manager : ExternalMindsManager
  nextId : Nat

namespace ServerRouting

variable (server : ServerRouting) (id : Nat)

/-- Account of an identifier. -/
def account? : Option AccountState :=
  match server.object id with
  | some (.account state) => some state
  | _ => none

def getConnection : Option Nat :=
  match server.object id with
  | some (.account state) => state.connection
  | some (.juncture connection) => connection
  | none => none

def setObject (object : Connectable) : ServerRouting :=
  { server with object := Function.update server.object id (some object) }

variable (connection : Nat)

def setTable (table : ConnectionTable) : ServerRouting :=
  { server with table := Function.update server.table connection table }

/-- Change the state of an account. -/
def modifyAccount (change : AccountState → AccountState) : ServerRouting :=
  match server.object id with
  | some (.account state) => server.setObject id (.account (change state))
  | _ => server

/-- `ServerRouting::getAccountByName`. -/
def findAccount (username : String) : Option Nat :=
  (server.names.find? (·.1 = username)).map Prod.snd

/-- Send it to all in the lobby. -/
def lobbyBroadcast (reply : Reply) : List (Nat × Reply) :=
  server.lobby.filterMap fun id =>
    (server.getConnection id).map fun connection =>
      (connection, { reply with recipient := some (toString id) })

/-- It tells of someone in the lobby. -/
def presence (kind : ReplyKind) (id : Nat) : Reply :=
  { kind := kind, refno := none, recipient := none, sender := some (toString id),
    args := [.present id] }

/-- `Lobby::addAccount`. -/
def lobbyAddAccount : ServerRouting × List (Nat × Reply) :=
  ({ server with lobby := ExternalMindsManager.insert id server.lobby },
    server.lobbyBroadcast (presence .appearance id))

/-- `Lobby::removeAccount`. -/
def lobbyRemoveAccount : ServerRouting × List (Nat × Reply) :=
  if id ∈ server.lobby then
    ({ server with lobby := server.lobby.filter (· ≠ id) },
      lobbyBroadcast { server with lobby := server.lobby.filter (· ≠ id) }
        (presence .disappearance id))
  else (server, [])

def addRouter (connection id : Nat) : ServerRouting :=
  server.setTable connection
    { server.table connection with
      routers := ExternalMindsManager.insert id (server.table connection).routers }

def removeRouter (connection id : Nat) : ServerRouting :=
  server.setTable connection
    { server.table connection with
      routers := (server.table connection).routers.filter (· ≠ id) }

/-- `Account::removeMindFromEntity`. -/
def removeMindRouter (connection : Option Nat) (mind : Nat) : ServerRouting :=
  match connection with
  | some connection => server.removeRouter connection mind
  | none => server

/-- `setConnection` with a connection. -/
def connectObject (connection id : Nat) : ServerRouting :=
  match server.object id with
  | some (.account state) =>
    server.setObject id (.account { state with connection := some connection })
  | some (.juncture _) => server.setObject id (.juncture (some connection))
  | none => server

/-- `setConnection` with none. -/
def releaseObject : ServerRouting :=
  match server.object id with
  | some (.account state) =>
    (state.minds.foldl (fun current mind => current.removeMindRouter state.connection mind.2)
      server).setObject id (.account { state with minds := [], connection := none })
  | some (.juncture _) => server.setObject id (.juncture none)
  | none => server

def addConnectableRouter (connection id : Nat) : ServerRouting :=
  let connected := (server.connectObject connection id).addRouter connection id
  connected.setTable connection
    { connected.table connection with
      connectableRouters :=
        ExternalMindsManager.insert id (connected.table connection).connectableRouters }

def disconnectObject (connection id : Nat) : ServerRouting × List (Nat × Reply) :=
  let released := (server.lobbyRemoveAccount id).1.releaseObject id
  let erased := released.setTable connection
    { released.table connection with
      connectableRouters := (released.table connection).connectableRouters.filter (· ≠ id) }
  (erased.removeRouter connection id, (server.lobbyRemoveAccount id).2)

def setPossessionEnabled (enabled : Bool) (id : Nat) :
    ServerRouting :=
  if enabled then
    let added := server.manager.addConnection ⟨toString id, connection⟩
    if added.2 then
      setTable { server with manager := added.1 } connection
        { server.table connection with
          possessionRouters := (server.table connection).possessionRouters ++ [id] }
    else { server with manager := added.1 }
  else if id ∈ (server.table connection).possessionRouters then
    { server with manager := server.manager.removeConnection (toString id) }
  else server

/-- `Connection::~Connection`: routers go first. -/
def closeConnection : ServerRouting × List (Nat × Reply) :=
  let deregistered : ServerRouting :=
    { server with
      connections := server.connections.filter (· ≠ connection)
      manager := (server.table connection).possessionRouters.foldl
        (fun manager id => manager.removeConnection (toString id)) server.manager }
  (server.table connection).connectableRouters.foldl
    (fun current id =>
      ((current.1.disconnectObject connection id).1,
        current.2 ++ (current.1.disconnectObject connection id).2))
    (deregistered, [])

/-- Without a mind yet. -/
def connectCharacter (id entity : Nat) : ServerRouting :=
  match server.account? id with
  | some state =>
    match state.connection with
    | some connection =>
      let connected := (server.addRouter connection server.nextId).modifyAccount id fun state =>
        { state with minds := state.minds ++ [(entity, server.nextId)] }
      { connected with nextId := server.nextId + 1 }
    | none => server
  | none => server

/-- Take the mind of an entity from an account. -/
def removeMind (id entity : Nat) : ServerRouting :=
  match server.account? id with
  | some state =>
    ((state.minds.filter (·.1 = entity)).foldl
      (fun current mind => current.removeMindRouter state.connection mind.2) server).modifyAccount
        id fun state => { state with minds := state.minds.filter (·.1 ≠ entity) }
  | none => server

/-- For an account of `addNewAccount`. -/
def newAccount (type : AccountType) (username hash : String) (connection : Nat) : AccountState :=
  { username := username, type := type, password := hash, loaded := true,
    connection := some connection, minds := [], characters := [] }

end ServerRouting

end Cyphesis.Server
