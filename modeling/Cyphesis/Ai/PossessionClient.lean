import Cyphesis.Common.OperationsDispatcher

/-!
# A mind and the client it lives in

The client of the AI minds hands operations to the mind they are for; what comes before the mind
knows its own entity is held back. What handling one comes to is a part of the events.
-/

namespace Cyphesis.Ai

open Cyphesis.Common
open Cyphesis.Foundation

universe u

/-- What `BaseMind::operation` tells apart first. -/
inductive MindOpKind where
  | info
  | error
  | tick
  | other
  deriving DecidableEq

/-- What is not set is `none`; `held` is history. -/
structure MindOp (β : Type u) where
  kind : MindOpKind
  recipient : Option String
  sender : Option String
  seconds : Option Int
  futureSeconds : Option Int
  content : β
  held : Bool
  deriving DecidableEq

/-- Operation without its history. -/
def MindOp.plain {β : Type u} (op : MindOp β) : MindOp β :=
  { op with held := false }

instance {β : Type u} : QueuedOperation (MindOp β) String where
  milliseconds op := op.seconds.getD 0
  setFrom op mind := { op with sender := some mind }

/-- What handling an operation comes to. -/
structure MindOutcome (β : Type u) where
  ownEntity : Bool
  answers : List (MindOp β)
  later : List (MindOp β)

/-- `PossessionClient` with one mind. -/
structure PossessionClient (β : Type u) where
  accountId : String
  mindId : String
  entityId : String
  ownEntity : Bool
  pendingOperations : List (MindOp β)
  dispatcher : OperationsDispatcher (MindOp β) String
  serverLocalTimeDiff : Int
  sent : List (MindOp β)
  arrived : List (MindOp β)
  handled : List (MindOp β)

/-- From the server or the queue. -/
inductive ClientEvent (β : Type u) where
  | operation (now : Int) (op : MindOp β) (outcome : MindOutcome β)
  | dispatch (now : Int) (outcome : MindOutcome β)

namespace PossessionClient

variable {β : Type u}

variable (client : PossessionClient β)

/-- `PossessionAccount::findMindForId`. -/
def isMind (id : String) : Bool :=
  id = client.mindId || id = client.entityId

variable (op : MindOp β)

/-- An operation is held back while the mind does not know its own entity. -/
def holdsBack : Bool :=
  !client.ownEntity && op.sender.any (· != client.entityId)

/-- An operation waits for the own entity. -/
def holdBack : PossessionClient β :=
  { client with
    pendingOperations := client.pendingOperations ++ [{ op with held := true }]
    arrived := if op.held then client.arrived else client.arrived ++ [op.plain] }

/-- Scripts and memory get it. -/
def handle (outcome : MindOutcome β) :
    PossessionClient β :=
  { client with
    ownEntity := client.ownEntity || outcome.ownEntity
    arrived :=
      if client.ownEntity && !op.held then client.arrived ++ [op.plain] else client.arrived
    handled := if client.ownEntity then client.handled ++ [op.plain] else client.handled }

/-- The tick a mind sends to itself at each tick. -/
def nextTick [Inhabited β] (client : PossessionClient β) : MindOp β :=
  { kind := .tick
    recipient := some client.mindId
    sender := some client.mindId
    seconds := none
    futureSeconds := some 10
    content := default
    held := false }

def processTick [Inhabited β] (client : PossessionClient β) (outcome : MindOutcome β) :
    PossessionClient β × List (MindOp β) :=
  let before := client.nextTick :: outcome.answers.map MindOp.plain
  let after := outcome.later.map MindOp.plain
  if client.ownEntity then
    match client.pendingOperations with
    | [] => (client, before ++ after)
    | op :: rest => ({ client with pendingOperations := rest }, before ++ op :: after)
  else (client, before ++ after)

/-- `BaseMind::operation`. -/
def mindOperation [Inhabited β] (client : PossessionClient β) (op : MindOp β)
    (outcome : MindOutcome β) : PossessionClient β × List (MindOp β) :=
  match op.kind with
  | .info =>
    ({ client with ownEntity := client.ownEntity || outcome.ownEntity },
      outcome.answers.map MindOp.plain)
  | .error => (client, [])
  | .tick => client.processTick outcome
  | .other =>
    if client.holdsBack op then (client.holdBack op, [])
    else (client.handle op outcome, outcome.answers.map MindOp.plain)

def resolveDispatchTimeForOp (now : Int) (op : MindOp β) : MindOp β :=
  match op.futureSeconds, op.seconds with
  | some future, _ => { op with seconds := some (now + future), futureSeconds := none }
  | none, none => { op with seconds := some now }
  | none, some _ => op

/-- A turn of `processResponses`. -/
def respond (now : Int) (client : PossessionClient β) (resOp : MindOp β) : PossessionClient β :=
  let op := { resOp with sender := some (resOp.sender.getD client.mindId) }
  match op.recipient with
  | none => { client with sent := client.sent ++ [op] }
  | some id =>
    if client.isMind id then
      { client with
        dispatcher := client.dispatcher.addOperationToQueue (resolveDispatchTimeForOp now op)
          client.mindId }
    else client

/-- An operation is for the mind unless it is an Info of its own. -/
def isForMind : Bool :=
  match op.recipient with
  | none => op.kind = .info
  | some id => if id = client.accountId then op.kind = .info else client.isMind id

def processOperation [Inhabited β] (client : PossessionClient β) (now : Int) (op : MindOp β)
    (outcome : MindOutcome β) : PossessionClient β :=
  if client.isForMind op then
    let result := client.mindOperation op outcome
    result.2.foldl (respond now) result.1
  else client

/-- `PossessionClient::operation`: the difference to the server's clock is noted first. -/
def operation [Inhabited β] (client : PossessionClient β) (now : Int) (op : MindOp β)
    (outcome : MindOutcome β) : PossessionClient β :=
  let timed :=
    match op.seconds with
    | none => client
    | some seconds => { client with serverLocalTimeDiff := now - seconds }
  timed.processOperation now op outcome

/-- The operation with the time of the server instead of the client's. -/
def adjusted : MindOp β :=
  { op with seconds := some (op.seconds.getD 0 - client.serverLocalTimeDiff) }

/-- One turn of `processUntil`. -/
def dispatch [Inhabited β] (client : PossessionClient β) (now : Int) (outcome : MindOutcome β) :
    PossessionClient β :=
  match client.dispatcher.operationQueue.top? with
  | none => client
  | some entry =>
    if OperationsDispatcher.isDue entry (now * 1000000) then
      let popped := { client with
        dispatcher := client.dispatcher.dispatchTop entry .processUntil (now * 1000000) [] }
      popped.processOperation now (popped.adjusted entry.op) outcome
    else client

def step [Inhabited β] (client : PossessionClient β) : ClientEvent β → PossessionClient β
  | .operation now op outcome => client.operation now op.plain outcome
  | .dispatch now outcome => client.dispatch now outcome

/-- The client when the mind has been created. -/
def created (accountId mindId entityId : String) : PossessionClient β where
  accountId := accountId
  mindId := mindId
  entityId := entityId
  ownEntity := false
  pendingOperations := []
  dispatcher := .initial
  serverLocalTimeDiff := 0
  sent := []
  arrived := []
  handled := []

end PossessionClient

end Cyphesis.Ai
