import Cyphesis.Simulation.TaskActions

/-!
# Ticks that belong to tasks

The serial numbers of the ticks are counted by each task for itself, from one.

A script may start tasks in the middle of a call of its own task, and these call their scripts in
turn. Each handler is therefore split into its beginning and its end, with anything in between.
-/

namespace Cyphesis.Simulation

open Cyphesis.Foundation

/-- A handler that has called a script, with the rest of it to come. -/
inductive OpenCall where
  | starting (id : String) (task : TaskRef)
  | ticking (id : String) (task : TaskRef)
  | completing (id : String) (task : TaskRef)
  | invoking (id : String) (task : TaskRef)
  deriving DecidableEq

/-- The tasks of an entity, and the handlers under way, the innermost first. -/
structure TaskCalls where
  world : RunningTasks
  calls : List OpenCall

/-- What begins a handler, happens in it, or ends it. -/
inductive CallEvent where
  /-- `hasScript`: making the script worked. -/
  | startTask (id : String) (task : TaskRef) (hasScript : Bool)
  | stopTask (id : String)
  /-- A `Tick` arrives, which happens outside of all handlers. -/
  | tick (tick : TaskTick)
  /-- A usage of the task is invoked, also outside of all handlers. -/
  | use (id : String)
  /-- A script asks something of its task. -/
  | act (task : TaskRef) (what : TaskAct)
  /-- A script ends with an exception. -/
  | raise (task : TaskRef)
  /-- The innermost handler goes on after its script has returned. -/
  | endCall (completes : Bool)

namespace RunningTasks

variable {world after : RunningTasks} {task : TaskRef} {id : String}

/-- The end of `TasksProperty::startTask`: `emplace` leaves a task that is there. -/
def endStart (world : RunningTasks) (id : String) (task : TaskRef) : RunningTasks :=
  if (world.task task).obsolete then world
  else
    let issued := world.nextTick id task
    if (issued.tasks.lookup id).isSome then issued
    else { issued with tasks := (id, task) :: issued.tasks }

/-- A tick of another task is too old for this one. -/
def TicksKept (world : RunningTasks) : Prop :=
  ∀ tick ∈ world.ticks, ∀ task, world.tasks.lookup tick.id = some task →
    task ≠ tick.issuer → tick.serialno < (world.task task).serialno

/-- Tasks, ticks and serial numbers are as they were. -/
structure SameTicks (world after : RunningTasks) : Prop where
  tasks : after.tasks = world.tasks
  ticks : after.ticks = world.ticks
  serialno : ∀ other, (after.task other).serialno = (world.task other).serialno

theorem SameTicks.trans {middle : RunningTasks} (first : SameTicks world middle)
    (second : SameTicks middle after) : SameTicks world after where
  tasks := second.tasks.trans first.tasks
  ticks := second.ticks.trans first.ticks
  serialno other := (second.serialno other).trans (first.serialno other)

section

variable (world) (task)

theorem sameTicks_setTask (value : RunningTask)
    (same : value.serialno = (world.task task).serialno) :
    SameTicks world (world.setTask task value) where
  tasks := rfl
  ticks := rfl
  serialno other := by
    by_cases isTask : other = task
    · simp [setTask, isTask, same]
    · simp [setTask, isTask]

theorem sameTicks_stopAction : SameTicks world (world.stopAction task) :=
  { sameTicks_setTask world task { world.task task with action := "" } rfl with }

theorem sameTicks_startAction (actionName : String) :
    SameTicks world (world.startAction task actionName) := by
  unfold startAction
  dsimp only
  split
  · exact { sameTicks_setTask world task { world.task task with action := actionName } rfl with }
  · refine (sameTicks_stopAction world task).trans ?_
    exact { sameTicks_setTask (world.stopAction task) task
      { (world.stopAction task).task task with action := actionName } rfl with }

theorem sameTicks_irrelevant : SameTicks world (world.irrelevant task) := by
  unfold irrelevant
  dsimp only
  split
  · exact sameTicks_setTask world task _ rfl
  · exact (sameTicks_setTask world task { world.task task with obsolete := true } rfl).trans
      (sameTicks_stopAction _ task)

theorem sameTicks_act (what : TaskAct) : SameTicks world (act task world what) := by
  cases what with
  | startAction actionName => exact sameTicks_startAction world task actionName
  | stopAction => exact sameTicks_stopAction world task
  | irrelevant =>
    simp only [act]
    split
    · exact ⟨rfl, rfl, fun _ => rfl⟩
    · exact sameTicks_irrelevant world task

end

theorem TicksKept.of_sameTicks (kept : world.TicksKept) (same : SameTicks world after) :
    after.TicksKept := by
  intro tick isTick current isCurrent different
  rw [same.ticks] at isTick
  rw [same.tasks] at isCurrent
  rw [same.serialno]
  exact kept tick isTick current isCurrent different

/-- If another task stands under the id, it has issued more ticks than this one with its next. -/
def MayIssue (world : RunningTasks) (id : String) (task : TaskRef) : Prop :=
  ∀ other ∈ world.tasks.lookup id, other ≠ task →
    (world.task task).serialno + 1 < (world.task other).serialno

/-- The ticks of others under way for the id are too old for the task that is entered there. -/
def MayEnter (world : RunningTasks) (id : String) (task : TaskRef) : Prop :=
  ∀ tick ∈ world.ticks, tick.id = id → task ≠ tick.issuer →
    tick.serialno ≤ (world.task task).serialno

instance (world : RunningTasks) (id : String) (task : TaskRef) :
    Decidable (world.MayIssue id task) :=
  inferInstanceAs (Decidable (∀ other ∈ world.tasks.lookup id, _))

instance (world : RunningTasks) (id : String) (task : TaskRef) :
    Decidable (world.MayEnter id task) :=
  inferInstanceAs (Decidable (∀ tick ∈ world.ticks, _))

theorem nextTick_self (world : RunningTasks) (id : String) (task : TaskRef) :
    ((world.nextTick id task).task task).serialno = (world.task task).serialno + 1 := by
  simp [nextTick, setTask]

theorem nextTick_of_ne (world : RunningTasks) (id : String) {task other : TaskRef}
    (different : other ≠ task) : (world.nextTick id task).task other = world.task other := by
  simp [nextTick, setTask, different]

section

variable (kept : world.TicksKept)

include kept

theorem TicksKept.nextTick (mayIssue : world.MayIssue id task) :
    (world.nextTick id task).TicksKept := by
  intro tick isTick current isCurrent different
  rcases List.mem_append.mp isTick with isOld | isNew
  · have older := kept tick isOld current isCurrent different
    by_cases same : current = task
    · subst same
      rw [nextTick_self]
      exact Nat.lt_succ_of_lt older
    · rw [nextTick_of_ne world id same]
      exact older
  · rw [List.mem_singleton.mp isNew] at isCurrent different ⊢
    rw [nextTick_of_ne world id different]
    exact mayIssue current isCurrent different

theorem TicksKept.eraseTask (id : String) : (world.eraseTask id).TicksKept := by
  intro tick isTick current isCurrent
  simp only [RunningTasks.eraseTask, lookup_filter_ne] at isCurrent
  split at isCurrent
  · cases isCurrent
  · exact kept tick isTick current isCurrent

theorem TicksKept.clearObsolete (id : String) (task : TaskRef) :
    (world.clearObsolete id task).TicksKept := by
  unfold RunningTasks.clearObsolete
  split
  · exact kept.eraseTask id
  · exact kept

theorem TicksKept.endStart (mayIssue : (world.task task).obsolete = false → world.MayIssue id task)
    (mayEnter : (world.task task).obsolete = false → world.tasks.lookup id = none →
      world.MayEnter id task) : (world.endStart id task).TicksKept := by
  unfold RunningTasks.endStart
  split
  · exact kept
  rename_i active
  rw [Bool.not_eq_true] at active
  have issued := kept.nextTick (mayIssue active)
  dsimp only
  split
  · exact issued
  rename_i absent
  rw [Option.not_isSome_iff_eq_none] at absent
  intro tick isTick current isCurrent different
  simp only [lookup_cons_eq_ite] at isCurrent
  split at isCurrent
  · -- the task that is entered, and ticks for its id
    rename_i sameId
    cases isCurrent
    rcases List.mem_append.mp isTick with isOld | isNew
    · have old := mayEnter active absent tick isOld sameId different
      rw [nextTick_self]
      exact Nat.lt_succ_of_le old
    · rw [List.mem_singleton.mp isNew] at different
      exact absurd rfl different
  · exact issued tick isTick current isCurrent different

end

end RunningTasks

namespace TaskCalls

def initial : TaskCalls := ⟨RunningTasks.initial, []⟩

variable (state : TaskCalls)

/-- Beginning of `TasksProperty::TickOperation`. -/
def deliver (tick : TaskTick) : TaskCalls :=
  let taken := { state.world with ticks := state.world.ticks.erase tick }
  match state.world.tasks.lookup tick.id with
  | none => ⟨taken, state.calls⟩
  | some task =>
    if tick.serialno ≠ (state.world.task task).serialno then ⟨taken, state.calls⟩
    else ⟨taken, .ticking tick.id task :: state.calls⟩

/-- The rest of a handler. A tick calls the script again if the task is complete. -/
def finish (world : RunningTasks) (calls : List OpenCall) (completes : Bool) :
    OpenCall → TaskCalls
  | .starting id task => ⟨world.endStart id task, calls⟩
  | .ticking id task =>
    if (world.task task).obsolete then ⟨world.clearTask id, calls⟩
    else if completes then ⟨world, .completing id task :: calls⟩
    else ⟨world.nextTick id task, calls⟩
  | .completing id task => ⟨(world.irrelevant task).clearTask id, calls⟩
  | .invoking id task => ⟨world.clearObsolete id task, calls⟩

def step : CallEvent → TaskCalls
  | .startTask id task hasScript =>
    let erased := state.world.eraseTask id
    ⟨if hasScript then erased else erased.irrelevant task, .starting id task :: state.calls⟩
  | .stopTask id => ⟨state.world.clearTask id, state.calls⟩
  | .tick tick => if state.calls = [] ∧ tick ∈ state.world.ticks then state.deliver tick else state
  | .use id =>
    match state.calls, state.world.tasks.lookup id with
    | [], some task => ⟨state.world, [.invoking id task]⟩
    | _, _ => state
  | .act task what => ⟨state.world.act task what, state.calls⟩
  | .raise task => ⟨state.world.irrelevant task, state.calls⟩
  | .endCall completes =>
    match state.calls with
    | [] => state
    | call :: calls => finish state.world calls completes call

/-- A tick that is delivered begins a call of its issuer, which stands under the id, or else is only
taken from those under way. -/
def OwnTicks : Prop :=
  ∀ tick ∈ state.world.ticks,
    let taken := { state.world with ticks := state.world.ticks.erase tick }
    (state.world.tasks.lookup tick.id = some tick.issuer ∧
      state.deliver tick = ⟨taken, .ticking tick.id tick.issuer :: state.calls⟩) ∨
    state.deliver tick = ⟨taken, state.calls⟩

/-- Where a task issues a tick, no other task is mistaken for it. -/
def StartsClear : CallEvent → Prop
  | .endCall completes =>
    match state.calls with
    | .starting id task :: _ => (state.world.task task).obsolete = false →
        state.world.MayIssue id task ∧
          (state.world.tasks.lookup id = none → state.world.MayEnter id task)
    | .ticking id task :: _ => (state.world.task task).obsolete = false → completes = false →
        state.world.MayIssue id task
    | _ => True
  | _ => True

variable {state}

theorem ownTicks_of_kept (kept : state.world.TicksKept) : state.OwnTicks := by
  intro tick isTick
  dsimp only
  unfold deliver
  cases isCurrent : state.world.tasks.lookup tick.id with
  | none => exact .inr rfl
  | some current =>
    dsimp only
    split
    · exact .inr rfl
    · rename_i sameNumber
      rw [ne_eq, not_not] at sameNumber
      have isIssuer : current = tick.issuer := by
        by_contra different
        exact Nat.ne_of_lt (kept tick isTick current isCurrent different) sameNumber
      rw [isIssuer]
      exact .inl ⟨rfl, rfl⟩

theorem kept_finish {call : OpenCall} {calls : List OpenCall} {world : RunningTasks}
    {completes : Bool} (kept : world.TicksKept)
    (clear : StartsClear ⟨world, call :: calls⟩ (.endCall completes)) :
    (finish world calls completes call).world.TicksKept := by
  cases call with
  | starting id task =>
    exact kept.endStart (fun active => (clear active).1) (fun active => (clear active).2)
  | ticking id task =>
    simp only [finish]
    split
    · exact kept.eraseTask id
    · rename_i active
      split
      · exact kept
      · rename_i underway
        rw [Bool.not_eq_true] at active underway
        exact kept.nextTick (clear active underway)
  | completing id task =>
    exact (kept.of_sameTicks (RunningTasks.sameTicks_irrelevant world task)).eraseTask id
  | invoking id task => exact kept.clearObsolete id task

theorem kept_step {event : CallEvent} (kept : state.world.TicksKept)
    (clear : state.StartsClear event) : (state.step event).world.TicksKept := by
  cases event with
  | startTask id task hasScript =>
    cases hasScript with
    | true => exact kept.eraseTask id
    | false =>
      exact (kept.eraseTask id).of_sameTicks (RunningTasks.sameTicks_irrelevant _ task)
  | stopTask id => exact kept.eraseTask id
  | tick tick =>
    have taken : RunningTasks.TicksKept
        { state.world with ticks := state.world.ticks.erase tick } :=
      fun other isOther => kept other (List.mem_of_mem_erase isOther)
    simp only [step]
    split
    · unfold deliver
      dsimp only
      split
      · exact taken
      · split
        · exact taken
        · exact taken
    · exact kept
  | use id =>
    simp only [step]
    split
    · exact kept
    · exact kept
  | act task what => exact kept.of_sameTicks (RunningTasks.sameTicks_act _ task what)
  | raise task => exact kept.of_sameTicks (RunningTasks.sameTicks_irrelevant _ task)
  | endCall completes =>
    rcases state with ⟨world, _ | ⟨call, calls⟩⟩
    · exact kept
    · exact kept_finish kept clear

/-- Without nested starts the two halves of `startTask` are the whole. -/
theorem run_startTask (id : String) (task : TaskRef) (acts : List TaskAct)
    (active : (state.world.task task).obsolete = false) :
    run step state (.startTask id task true :: acts.map (.act task) ++ [.endCall false]) =
      ⟨state.world.startTask id task true ⟨acts, false⟩, state.calls⟩ := by
  have performs : ∀ (acts : List TaskAct) (world : RunningTasks) (calls : List OpenCall),
      run step ⟨world, calls⟩ (acts.map (.act task)) = ⟨world.performActs task acts, calls⟩ := by
    intro acts
    induction acts with
    | nil => exact fun _ _ => rfl
    | cons first rest ih => exact fun world calls => ih (world.act task first) calls
  have absent : (state.world.eraseTask id).tasks.lookup id = none := by
    rw [RunningTasks.eraseTask, lookup_filter_ne, if_pos rfl]
  rw [List.cons_append, run_cons, run_append]
  simp only [step, if_true]
  rw [performs]
  simp only [run_cons, run_nil, step, finish, RunningTasks.endStart, RunningTasks.startTask,
    RunningTasks.initTask, RunningTasks.setUp, RunningTasks.callScriptFunction, if_true]
  have same : ((state.world.eraseTask id).task task).obsolete = false := active
  rw [same]
  simp only [Bool.false_eq_true, if_false]
  split
  · rfl
  · rename_i obsolete
    have noTask : (((state.world.eraseTask id).performActs task acts).nextTick id
        task).tasks.lookup id = none := by
      have tasks := RunningTasks.performActs_tasks (state.world.eraseTask id) task acts
      simp only [RunningTasks.nextTick, RunningTasks.setTask, tasks, absent]
    simp only [noTask, Option.isSome_none, Bool.false_eq_true, if_false,
      RunningTasks.nextTick_obsolete, obsolete]

/-- If no task issues a tick that could be taken for one of the task that stands under its id, every
tick that is under way advances its issuer or nothing. -/
theorem run_ownTicks (events : List CallEvent)
    (clear : Admissible step StartsClear initial events) : (run step initial events).OwnTicks := by
  apply ownTicks_of_kept
  refine run_invariant (fun state : TaskCalls => state.world.TicksKept)
    (fun _ _ kept each => kept_step kept each) ?_ clear
  intro tick isTick
  simp [initial, RunningTasks.initial] at isTick

instance decidableStartsClear (state : TaskCalls) :
    (event : CallEvent) → Decidable (state.StartsClear event)
  | .endCall _ =>
    match state with
    | ⟨_, []⟩ => isTrue trivial
    | ⟨_, .starting ..  :: _⟩ => inferInstanceAs (Decidable (_ = _ → _ ∧ (_ → _)))
    | ⟨_, .ticking .. :: _⟩ => inferInstanceAs (Decidable (_ = _ → _ = _ → _))
    | ⟨_, .completing .. :: _⟩ => isTrue trivial
    | ⟨_, .invoking .. :: _⟩ => isTrue trivial
  | .startTask .. => isTrue trivial
  | .stopTask _ => isTrue trivial
  | .tick _ => isTrue trivial
  | .use _ => isTrue trivial
  | .act .. => isTrue trivial
  | .raise _ => isTrue trivial

/-- A pending task starts another one under another id. -/
def pendingRun (id : String) : List CallEvent :=
  [.startTask "pending" 0 true, .endCall false, .tick ⟨"pending", 1, 0⟩, .startTask id 1 true,
    .endCall false, .endCall false, .tick ⟨id, 1, 1⟩, .endCall false]

theorem run_ownTicks_pending :
    Admissible step StartsClear initial (pendingRun "melee") ∧
      (run step initial (pendingRun "melee")).OwnTicks := by
  refine ⟨by decide +kernel, ?_⟩
  apply run_ownTicks
  decide +kernel

/-- A task that replaces another is advanced by its tick: by the first, if it was started from
outside, and by the second, if it was started in the first. -/
theorem run_tick_of_another :
    ¬ (run step initial [.startTask "melee" 0 true, .endCall false, .startTask "melee" 1 true,
      .endCall false]).OwnTicks ∧ ¬ (run step initial (pendingRun "pending")).OwnTicks := by
  constructor
  · intro own
    rcases own ⟨"melee", 1, 0⟩ (by decide +kernel) with ⟨isIssuer, -⟩ | ignored
    · revert isIssuer
      decide +kernel
    · have calls := congrArg TaskCalls.calls ignored
      revert calls
      decide +kernel
  · intro own
    rcases own ⟨"pending", 2, 0⟩ (by decide +kernel) with ⟨isIssuer, -⟩ | ignored
    · revert isIssuer
      decide +kernel
    · have calls := congrArg TaskCalls.calls ignored
      revert calls
      decide +kernel

end TaskCalls

end Cyphesis.Simulation
