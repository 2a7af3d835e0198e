import Cyphesis.Foundation.Run
import Cyphesis.Foundation.Keyed

/-!
# Tasks that run on an entity

A task is advanced by `Tick` operations of its own, with the id and a serial number, delivered in
any order. What a script does is given by the acts that concern its task, as is what completes it.
-/

namespace Cyphesis.Simulation

open Cyphesis.Foundation

/-- A `Task` object. -/
abbrev TaskRef := Nat

/-- Parts of a `Task` that change. -/
structure RunningTask where
  /-- The serial number of the next tick. -/
  serialno : Nat
  obsolete : Bool
  /-- The action started, or the empty name. -/
  action : String
  deriving DecidableEq

/-- What a script asks of its task. -/
inductive TaskAct where
  | startAction (actionName : String)
  | stopAction
  | irrelevant

/-- A call of a script. -/
structure ScriptCall where
  acts : List TaskAct
  /-- The call ends with an exception. -/
  raises : Bool

/-- Argument of a `Tick`, and its issuer. -/
structure TaskTick where
  id : String
  serialno : Nat
  issuer : TaskRef
  deriving DecidableEq

/-- An action, and the task that started it. -/
structure StartedAction where
  endTime : Option Int
  starter : Option TaskRef
  deriving DecidableEq

/-- What a tick of a task leads to. -/
structure TickCalls where
  tick : ScriptCall
  /-- The progress has reached its end. -/
  completes : Bool
  completed : ScriptCall

structure RunningTasks where
  tasks : List (String × TaskRef)
  task : TaskRef → RunningTask
  /-- `ActionsProperty::m_data` -/
  actions : String → Option StartedAction
  /-- Ticks under way to the entity. -/
  ticks : List TaskTick

/-- What happens to the tasks and the actions of an entity. -/
inductive TaskEvent where
  /-- `hasScript`: making the script worked. -/
  | startTask (id : String) (task : TaskRef) (hasScript : Bool) (setup : ScriptCall)
  | stopTask (id : String)
  | tick (tick : TaskTick) (calls : TickCalls)
  /-- A usage of the task is invoked. -/
  | use (id : String) (usage : ScriptCall)
  /-- A script is called from elsewhere. -/
  | callback (task : TaskRef) (acts : List TaskAct)
  /-- An action is started by no task. -/
  | startAction (actionName : String) (endTime : Int)
  /-- The `Tick` of the actions. -/
  | expireActions (now : Int)

namespace RunningTasks

def initial : RunningTasks :=
  { tasks := [], task := fun _ => ⟨0, false, ""⟩, actions := fun _ => none, ticks := [] }

variable (world : RunningTasks) (task : TaskRef)

def setTask (value : RunningTask) : RunningTasks :=
  { world with task := Function.update world.task task value }

variable (actionName : String)

def addAction (action : StartedAction) :
    RunningTasks :=
  { world with actions := Function.update world.actions actionName (some action) }

def removeAction : RunningTasks :=
  { world with actions := Function.update world.actions actionName none }

def stopAction : RunningTasks :=
  (world.removeAction (world.task task).action).setTask task { world.task task with action := "" }

def startAction : RunningTasks :=
  let stopped := if (world.task task).action = "" then world else world.stopAction task
  (stopped.setTask task { stopped.task task with action := actionName }).addAction actionName
    { endTime := none, starter := some task }

/-- `ActionsProperty::TickOperation`. -/
def expireActions (now : Int) : RunningTasks :=
  { world with
    actions := fun actionName => (world.actions actionName).filter fun action =>
      !action.endTime.any (· ≤ now) }

def irrelevant : RunningTasks :=
  let obsolete := world.setTask task { world.task task with obsolete := true }
  if (world.task task).action = "" then obsolete else obsolete.stopAction task

/-- What a script asks of its task. -/
def act (world : RunningTasks) : TaskAct → RunningTasks
  | .startAction actionName => world.startAction task actionName
  | .stopAction => world.stopAction task
  | .irrelevant => if (world.task task).obsolete then world else world.irrelevant task

def performActs (acts : List TaskAct) : RunningTasks :=
  acts.foldl (act task) world

/-- Calls of script functions of a `Task`. -/
def callScriptFunction (call : ScriptCall) :
    RunningTasks :=
  if (world.task task).obsolete then world
  else
    let performed := world.performActs task call.acts
    if call.raises then performed.irrelevant task else performed

variable (id : String)

def nextTick (task : TaskRef) : RunningTasks :=
  let serialno := (world.task task).serialno + 1
  { world.setTask task { world.task task with serialno := serialno } with
    ticks := world.ticks ++ [⟨id, serialno, task⟩] }

/-- Call of the script in `initTask`. -/
def setUp (hasScript : Bool) (setup : ScriptCall) :
    RunningTasks :=
  if hasScript then world.callScriptFunction task setup else world.irrelevant task

def initTask (task : TaskRef) (hasScript : Bool) (setup : ScriptCall) : RunningTasks :=
  let called := world.setUp task hasScript setup
  if (called.task task).obsolete then called else called.nextTick id task

/-- `Task::tick`. -/
def tickTask (task : TaskRef) (calls : TickCalls) :
    RunningTasks :=
  let ticked := world.callScriptFunction task calls.tick
  if (ticked.task task).obsolete then ticked
  else if calls.completes then (ticked.callScriptFunction task calls.completed).irrelevant task
  else ticked.nextTick id task

def eraseTask : RunningTasks :=
  { world with tasks := world.tasks.filter (·.1 ≠ id) }

def startTask (task : TaskRef) (hasScript : Bool) (setup : ScriptCall) : RunningTasks :=
  let started := (world.eraseTask id).initTask id task hasScript setup
  if (started.task task).obsolete then started
  else { started with tasks := (id, task) :: started.tasks }

/-- `TasksProperty::clearTask` and `stopTask`. -/
def clearTask : RunningTasks :=
  world.eraseTask id

/-- Clear a task once it is obsolete. -/
def clearObsolete (task : TaskRef) : RunningTasks :=
  if (world.task task).obsolete then world.clearTask id else world

def tickOperation (tick : TaskTick) (calls : TickCalls) : RunningTasks :=
  match world.tasks.lookup tick.id with
  | none => world
  | some task =>
    if tick.serialno ≠ (world.task task).serialno then world
    else (world.tickTask tick.id task calls).clearObsolete tick.id task

/-- `TasksProperty::UseOperation`, with the usage. -/
def useOperation (usage : ScriptCall) : RunningTasks :=
  match world.tasks.lookup id with
  | none => world
  | some task => (world.callScriptFunction task usage).clearObsolete id task

/-- A `Tick` arrives that is under way. -/
def deliver (tick : TaskTick) (calls : TickCalls) : RunningTasks :=
  { world with ticks := world.ticks.erase tick }.tickOperation tick calls

def step : TaskEvent → RunningTasks
  | .startTask id task hasScript setup => world.startTask id task hasScript setup
  | .stopTask id => world.clearTask id
  | .tick tick calls => if tick ∈ world.ticks then world.deliver tick calls else world
  | .use id usage => world.useOperation id usage
  | .callback task acts => world.performActs task acts
  | .startAction actionName endTime =>
    world.addAction actionName { endTime := some endTime, starter := none }
  | .expireActions now => world.expireActions now

end RunningTasks

end Cyphesis.Simulation
