import Cyphesis.Simulation.RunningTasks

/-!
# Actions that belong to tasks

A task that becomes irrelevant stops its action.
-/

namespace Cyphesis.Simulation

open Cyphesis.Foundation List
open Function

namespace RunningTasks

variable {world : RunningTasks} {extra : TaskRef → Prop} {task : TaskRef} {id : String}

/-- Actions started belong to tasks there. -/
def NoneOutlives (world : RunningTasks) : Prop :=
  ∀ actionName action task, world.actions actionName = some action →
    action.starter = some task → task ∈ world.tasks.map Prod.snd

/-- An action is the one its task holds, and an obsolete task holds none. -/
structure ActionsKept (extra : TaskRef → Prop) (world : RunningTasks) : Prop where
  keys : (world.tasks.map Prod.fst).Nodup
  held : ∀ actionName action task, world.actions actionName = some action →
    action.starter = some task →
      (task ∈ world.tasks.map Prod.snd ∨ extra task) ∧ (world.task task).action = actionName ∧
        actionName ≠ ""
  idle : ∀ task, (world.task task).obsolete = true → (world.task task).action = ""

theorem ActionsKept.noneOutlives (kept : ActionsKept (fun _ => False) world) :
    world.NoneOutlives := by
  intro actionName action task isAction isStarter
  exact (kept.held actionName action task isAction isStarter).1.resolve_right id

theorem ActionsKept.stopAction (kept : ActionsKept extra world) (task : TaskRef) :
    ActionsKept extra (world.stopAction task) := by
  constructor
  case keys => exact kept.keys
  case held =>
    intro actionName action starter isAction isStarter
    have different : actionName ≠ (world.task task).action := by
      rintro rfl
      simp [RunningTasks.stopAction, removeAction, setTask] at isAction
    have isOld : world.actions actionName = some action := by
      simpa [RunningTasks.stopAction, removeAction, setTask, different] using isAction
    obtain ⟨isThere, isName, nonempty⟩ := kept.held actionName action starter isOld isStarter
    have isOther : starter ≠ task := by
      rintro rfl
      exact different isName.symm
    refine ⟨isThere, ?_, nonempty⟩
    simpa [RunningTasks.stopAction, removeAction, setTask, isOther] using isName
  case idle =>
    intro other obsolete
    by_cases same : other = task
    · simp [RunningTasks.stopAction, removeAction, setTask, same]
    · simp only [RunningTasks.stopAction, removeAction, setTask, update_of_ne same]
        at obsolete ⊢
      exact kept.idle other obsolete

theorem stopAction_obsolete (world : RunningTasks) (task : TaskRef) :
    ((world.stopAction task).task task).obsolete = (world.task task).obsolete := by
  simp [stopAction, removeAction, setTask]

variable {actionName : String}

section

variable (kept : ActionsKept extra world) (isThere : task ∈ world.tasks.map Prod.snd ∨ extra task)

include kept isThere

theorem ActionsKept.beginAction
    (without : (world.task task).action = "") (active : (world.task task).obsolete = false)
    (nonempty : actionName ≠ "") :
    ActionsKept extra
      ((world.setTask task { world.task task with action := actionName }).addAction actionName
        { endTime := none, starter := some task }) := by
  constructor
  case keys => exact kept.keys
  case held =>
    intro name action starter isAction isStarter
    by_cases same : name = actionName
    · subst same
      simp only [addAction, update_self, Option.some.injEq] at isAction
      subst isAction
      cases isStarter
      refine ⟨isThere, ?_, nonempty⟩
      simp [addAction, setTask]
    · simp only [addAction, setTask, update_of_ne same] at isAction
      obtain ⟨isOldThere, isName, isNonempty⟩ := kept.held name action starter isAction isStarter
      have isOther : starter ≠ task := by
        rintro rfl
        exact isNonempty (isName.symm.trans without)
      refine ⟨isOldThere, ?_, isNonempty⟩
      simpa [addAction, setTask, isOther] using isName
  case idle =>
    intro other obsolete
    by_cases same : other = task
    · simp [addAction, setTask, same, active] at obsolete
    · simp only [addAction, setTask, update_of_ne same] at obsolete ⊢
      exact kept.idle other obsolete

theorem ActionsKept.startAction
    (active : (world.task task).obsolete = false) (nonempty : actionName ≠ "") :
    ActionsKept extra (world.startAction task actionName) := by
  unfold RunningTasks.startAction
  dsimp only
  split
  · rename_i without
    exact kept.beginAction isThere without active nonempty
  · refine (kept.stopAction task).beginAction isThere ?_ ?_ nonempty
    · simp [RunningTasks.stopAction, removeAction, setTask]
    · rw [stopAction_obsolete, active]

end

theorem startAction_obsolete (world : RunningTasks) (task : TaskRef) (actionName : String) :
    ((world.startAction task actionName).task task).obsolete = (world.task task).obsolete := by
  unfold startAction
  dsimp only
  split
  · simp [addAction, setTask]
  · simp [addAction, setTask, stopAction, removeAction]

theorem ActionsKept.irrelevant (kept : ActionsKept extra world) (task : TaskRef) :
    ActionsKept extra (world.irrelevant task) := by
  -- the order of the two changes of the task does not matter
  have stopped : ∀ {other : RunningTasks}, ActionsKept extra other →
      (other.task task).action = "" →
      ActionsKept extra (other.setTask task { other.task task with obsolete := true }) := by
    intro other keptOther without
    constructor
    case keys => exact keptOther.keys
    case held =>
      intro actionName action starter isAction isStarter
      obtain ⟨isThere, isName, nonempty⟩ :=
        keptOther.held actionName action starter isAction isStarter
      refine ⟨isThere, ?_, nonempty⟩
      by_cases same : starter = task
      · subst same
        simpa [setTask] using isName
      · simpa [setTask, same] using isName
    case idle =>
      intro name obsolete
      by_cases same : name = task
      · simp [setTask, same, without]
      · simp only [setTask, update_of_ne same] at obsolete ⊢
        exact keptOther.idle name obsolete
  unfold RunningTasks.irrelevant
  dsimp only
  split
  · rename_i without
    exact stopped kept without
  · have commuted := stopped (kept.stopAction task)
      (by simp [RunningTasks.stopAction, removeAction, setTask])
    simpa [RunningTasks.stopAction, removeAction, setTask] using commuted

theorem irrelevant_obsolete (world : RunningTasks) (task : TaskRef) :
    ((world.irrelevant task).task task).obsolete = true := by
  unfold irrelevant
  dsimp only
  split <;> simp [setTask, stopAction, removeAction]

/-- Started, with names, by tasks in use. -/
def Tame : Bool → List TaskAct → Prop
  | _, [] => True
  | obsolete, .startAction actionName :: rest =>
    obsolete = false ∧ actionName ≠ "" ∧ Tame obsolete rest
  | obsolete, .stopAction :: rest => Tame obsolete rest
  | _, .irrelevant :: rest => Tame true rest

theorem act_tasks (task : TaskRef) (world : RunningTasks) (what : TaskAct) :
    (act task world what).tasks = world.tasks := by
  cases what with
  | startAction actionName =>
    simp only [act, startAction]
    split <;> rfl
  | stopAction => rfl
  | irrelevant =>
    simp only [act]
    split
    · rfl
    · unfold irrelevant
      dsimp only
      split <;> rfl

theorem ActionsKept.performActs {acts : List TaskAct} (kept : ActionsKept extra world)
    (isThere : (∃ actionName, .startAction actionName ∈ acts) →
      task ∈ world.tasks.map Prod.snd ∨ extra task)
    (tame : Tame (world.task task).obsolete acts) :
    ActionsKept extra (world.performActs task acts) := by
  unfold RunningTasks.performActs
  induction acts generalizing world with
  | nil => exact kept
  | cons first rest ih =>
    have laterThere : (∃ actionName, .startAction actionName ∈ rest) →
        task ∈ (act task world first).tasks.map Prod.snd ∨ extra task := by
      rintro ⟨actionName, isLater⟩
      rw [act_tasks]
      exact isThere ⟨actionName, mem_cons_of_mem _ isLater⟩
    rw [foldl_cons]
    cases first with
    | startAction actionName =>
      obtain ⟨active, nonempty, tameRest⟩ := tame
      apply ih _ laterThere
      · simp only [act, startAction_obsolete]
        exact tameRest
      · exact kept.startAction (isThere ⟨actionName, mem_cons_self⟩) active nonempty
    | stopAction =>
      apply ih (kept.stopAction task) laterThere
      have same := stopAction_obsolete world task
      rwa [← same] at tame
    | irrelevant =>
      by_cases obsolete : (world.task task).obsolete = true
      · have same : act task world .irrelevant = world := if_pos obsolete
        rw [same] at laterThere ⊢
        apply ih kept laterThere
        rw [obsolete]
        exact tame
      · have same : act task world .irrelevant = world.irrelevant task := if_neg obsolete
        rw [same] at laterThere ⊢
        apply ih (kept.irrelevant task) laterThere
        rw [irrelevant_obsolete]
        exact tame

section

variable (world) (task)

theorem performActs_tasks (acts : List TaskAct) :
    (world.performActs task acts).tasks = world.tasks := by
  apply run_invariant_of_step (fun after : RunningTasks => after.tasks = world.tasks)
  · intro middle what same
    rw [act_tasks, same]
  · rfl

theorem irrelevant_tasks : (world.irrelevant task).tasks = world.tasks := by
  unfold irrelevant
  dsimp only
  split <;> rfl

end

theorem ActionsKept.callScriptFunction {call : ScriptCall} (kept : ActionsKept extra world)
    (isThere : task ∈ world.tasks.map Prod.snd ∨ extra task) (tame : Tame false call.acts) :
    ActionsKept extra (world.callScriptFunction task call) := by
  unfold RunningTasks.callScriptFunction
  split
  · exact kept
  · rename_i active
    have performed := kept.performActs (fun _ => isThere)
      (by rwa [Bool.eq_false_iff.mpr active] : Tame (world.task task).obsolete call.acts)
    dsimp only
    split
    · exact performed.irrelevant task
    · exact performed

theorem callScriptFunction_tasks (world : RunningTasks) (task : TaskRef) (call : ScriptCall) :
    (world.callScriptFunction task call).tasks = world.tasks := by
  unfold callScriptFunction
  split
  · rfl
  · dsimp only
    split
    · rw [irrelevant_tasks, performActs_tasks]
    · rw [performActs_tasks]

theorem ActionsKept.nextTick (kept : ActionsKept extra world) (id : String) (task : TaskRef) :
    ActionsKept extra (world.nextTick id task) := by
  have same : ∀ other, ((world.nextTick id task).task other).action = (world.task other).action ∧
      ((world.nextTick id task).task other).obsolete = (world.task other).obsolete := by
    intro other
    by_cases isTask : other = task
    · simp [RunningTasks.nextTick, setTask, isTask]
    · simp [RunningTasks.nextTick, setTask, isTask]
  constructor
  case keys => exact kept.keys
  case held =>
    intro actionName action starter isAction isStarter
    rw [(same starter).1]
    exact kept.held actionName action starter isAction isStarter
  case idle =>
    intro other obsolete
    rw [(same other).2] at obsolete
    rw [(same other).1]
    exact kept.idle other obsolete

theorem nextTick_obsolete (world : RunningTasks) (id : String) (task : TaskRef) :
    ((world.nextTick id task).task task).obsolete = (world.task task).obsolete := by
  simp [nextTick, setTask]

theorem ActionsKept.initTask {hasScript : Bool} {setup : ScriptCall}
    (kept : ActionsKept extra world) (isThere : extra task) (tame : Tame false setup.acts) :
    ActionsKept extra (world.initTask id task hasScript setup) := by
  have called : ActionsKept extra (world.setUp task hasScript setup) := by
    cases hasScript with
    | true => exact kept.callScriptFunction (Or.inr isThere) tame
    | false => exact kept.irrelevant task
  unfold RunningTasks.initTask
  dsimp only
  split
  · exact called
  · exact called.nextTick id task

theorem ActionsKept.tickTask {calls : TickCalls} (kept : ActionsKept extra world)
    (isThere : task ∈ world.tasks.map Prod.snd) (tame : Tame false calls.tick.acts)
    (tameEnd : Tame false calls.completed.acts) :
    ActionsKept extra (world.tickTask id task calls) := by
  have ticked := kept.callScriptFunction (Or.inl isThere) tame
  unfold RunningTasks.tickTask
  dsimp only
  split
  · exact ticked
  · split
    · refine ActionsKept.irrelevant (ticked.callScriptFunction (Or.inl ?_) tameEnd) task
      rwa [callScriptFunction_tasks]
    · exact ticked.nextTick id task

theorem tickTask_tasks (world : RunningTasks) (id : String) (task : TaskRef) (calls : TickCalls) :
    (world.tickTask id task calls).tasks = world.tasks := by
  unfold tickTask
  dsimp only
  split
  · exact callScriptFunction_tasks ..
  · split
    · rw [irrelevant_tasks, callScriptFunction_tasks, callScriptFunction_tasks]
    · exact callScriptFunction_tasks ..

/-- No action of the task is under way. -/
def HasNone (world : RunningTasks) (task : TaskRef) : Prop :=
  ∀ actionName action, world.actions actionName = some action → action.starter ≠ some task

theorem ActionsKept.eraseTask (kept : ActionsKept extra world)
    (without : ∀ task, (id, task) ∈ world.tasks → world.HasNone task) :
    ActionsKept extra (world.eraseTask id) := by
  constructor
  case keys => exact kept.keys.sublist (List.Sublist.map _ filter_sublist)
  case held =>
    intro actionName action starter isAction isStarter
    obtain ⟨isThere, isName, nonempty⟩ :=
      kept.held actionName action starter isAction isStarter
    refine ⟨isThere.imp_left fun isTask => ?_, isName, nonempty⟩
    obtain ⟨⟨key, value⟩, isEntry, rfl⟩ := List.mem_map.mp isTask
    have different : key ≠ id := by
      rintro rfl
      exact without value isEntry actionName action isAction isStarter
    exact List.mem_map.mpr ⟨(key, value), List.mem_filter.mpr ⟨isEntry, by simpa using different⟩,
      rfl⟩
  case idle => exact kept.idle

theorem eq_of_lookup {other : TaskRef} (keys : (world.tasks.map Prod.fst).Nodup)
    (isTask : world.tasks.lookup id = some task) (isOther : (id, other) ∈ world.tasks) :
    other = task := by
  obtain ⟨before, later, split, -⟩ := List.lookup_eq_some_iff.mp isTask
  have isEntry : (id, task) ∈ world.tasks := by
    rw [split]
    simp
  exact congrArg Prod.snd (inj_on_of_nodup_map keys isOther isEntry rfl)

theorem mem_of_lookup (isTask : world.tasks.lookup id = some task) :
    task ∈ world.tasks.map Prod.snd := by
  obtain ⟨before, later, split, -⟩ := List.lookup_eq_some_iff.mp isTask
  rw [split]
  simp

theorem ActionsKept.clearObsolete (kept : ActionsKept extra world)
    (isTask : world.tasks.lookup id = some task) :
    ActionsKept extra (world.clearObsolete id task) := by
  unfold RunningTasks.clearObsolete
  split
  · rename_i obsolete
    apply kept.eraseTask
    intro other isOther
    rw [eq_of_lookup kept.keys isTask isOther]
    intro actionName action isAction isStarter
    obtain ⟨-, isName, nonempty⟩ := kept.held actionName action task isAction isStarter
    exact nonempty (isName.symm.trans (kept.idle task obsolete))
  · exact kept

section

variable (world) (id)

theorem eraseTask_not_mem : id ∉ (world.eraseTask id).tasks.map Prod.fst := by
  intro isKey
  obtain ⟨entry, isEntry, isId⟩ := List.mem_map.mp isKey
  have different := (List.mem_filter.mp isEntry).2
  simp [isId] at different

theorem initTask_tasks (task : TaskRef) (hasScript : Bool)
    (setup : ScriptCall) : (world.initTask id task hasScript setup).tasks = world.tasks := by
  have called : (world.setUp task hasScript setup).tasks = world.tasks := by
    cases hasScript with
    | true => exact callScriptFunction_tasks ..
    | false => exact irrelevant_tasks ..
  unfold initTask
  dsimp only
  split
  · exact called
  · exact called

end

section

variable (kept : ActionsKept (fun _ => False) world)

include kept

theorem ActionsKept.startTask {hasScript : Bool} {setup : ScriptCall}
    (without : ∀ task, (id, task) ∈ world.tasks → world.HasNone task)
    (tame : Tame false setup.acts) :
    ActionsKept (fun _ => False) (world.startTask id task hasScript setup) := by
  have erased := kept.eraseTask without
  have opened : ActionsKept (· = task) (world.eraseTask id) :=
    { erased with
      held := fun actionName action starter isAction isStarter => by
        obtain ⟨isThere, rest⟩ := erased.held actionName action starter isAction isStarter
        exact ⟨isThere.imp_right False.elim, rest⟩ }
  have started := @ActionsKept.initTask _ _ task id hasScript setup opened rfl tame
  unfold RunningTasks.startTask
  dsimp only
  split
  · rename_i obsolete
    refine { started with held := ?_ }
    intro actionName action starter isAction isStarter
    obtain ⟨isThere, isName, nonempty⟩ :=
      started.held actionName action starter isAction isStarter
    refine ⟨isThere.imp_right ?_, isName, nonempty⟩
    rintro rfl
    exact nonempty (isName.symm.trans (started.idle starter obsolete))
  · constructor
    case keys =>
      refine List.nodup_cons.mpr ⟨?_, started.keys⟩
      rw [initTask_tasks]
      exact eraseTask_not_mem world id
    case held =>
      intro actionName action starter isAction isStarter
      obtain ⟨isThere, rest⟩ := started.held actionName action starter isAction isStarter
      refine ⟨Or.inl ?_, rest⟩
      rcases isThere with isTask | rfl
      · exact mem_cons_of_mem _ isTask
      · exact mem_cons_self
    case idle => exact started.idle

/-- Such a step leaves no action behind. -/
def LeavesNone (world : RunningTasks) : TaskEvent → Prop
  | .startTask id _ _ setup =>
    (∀ task, (id, task) ∈ world.tasks → world.HasNone task) ∧ Tame false setup.acts
  | .stopTask id => ∀ task, (id, task) ∈ world.tasks → world.HasNone task
  | .tick _ calls => Tame false calls.tick.acts ∧ Tame false calls.completed.acts
  | .use _ usage => Tame false usage.acts
  | .callback task acts => Tame (world.task task).obsolete acts ∧
      ((∃ actionName, .startAction actionName ∈ acts) → task ∈ world.tasks.map Prod.snd)
  | .startAction .. => True
  | .expireActions _ => True

theorem ActionsKept.deliver {tick : TaskTick} {calls : TickCalls}
    (tame : Tame false calls.tick.acts)
    (tameEnd : Tame false calls.completed.acts) :
    ActionsKept (fun _ => False) (world.deliver tick calls) := by
  have taken : ActionsKept (fun _ => False) { world with ticks := world.ticks.erase tick } :=
    { kept with }
  unfold RunningTasks.deliver tickOperation
  split
  · exact taken
  · rename_i isTask
    split
    · exact taken
    · apply (taken.tickTask (mem_of_lookup isTask) tame tameEnd).clearObsolete
      rw [tickTask_tasks]
      exact isTask

theorem ActionsKept.useOperation {usage : ScriptCall} (tame : Tame false usage.acts) :
    ActionsKept (fun _ => False) (world.useOperation id usage) := by
  unfold RunningTasks.useOperation
  split
  · exact kept
  · rename_i isTask
    apply (kept.callScriptFunction (Or.inl (mem_of_lookup isTask)) tame).clearObsolete
    rw [callScriptFunction_tasks]
    exact isTask

end

theorem ActionsKept.addOther {action : StartedAction} (kept : ActionsKept extra world)
    (actionName : String) (isOther : action.starter = none) :
    ActionsKept extra (world.addAction actionName action) := by
  refine { kept with held := ?_ }
  intro name found starter isAction isStarter
  by_cases same : name = actionName
  · subst same
    simp only [addAction, update_self, Option.some.injEq] at isAction
    subst isAction
    rw [isOther] at isStarter
    contradiction
  · simp only [addAction, update_of_ne same] at isAction
    exact kept.held name found starter isAction isStarter

theorem ActionsKept.expireActions (kept : ActionsKept extra world) (now : Int) :
    ActionsKept extra (world.expireActions now) := by
  refine { kept with held := ?_ }
  intro actionName action starter isAction isStarter
  exact kept.held actionName action starter (Option.filter_eq_some_iff.mp isAction).1 isStarter

theorem ActionsKept.step {event : TaskEvent} (kept : ActionsKept (fun _ => False) world)
    (leavesNone : world.LeavesNone event) : ActionsKept (fun _ => False) (world.step event) := by
  cases event with
  | startTask id task hasScript setup => exact kept.startTask leavesNone.1 leavesNone.2
  | stopTask id => exact kept.eraseTask leavesNone
  | tick tick calls =>
    simp only [RunningTasks.step]
    split
    · exact kept.deliver leavesNone.1 leavesNone.2
    · exact kept
  | use id usage => exact kept.useOperation leavesNone
  | callback task acts =>
    exact kept.performActs (fun starts => Or.inl (leavesNone.2 starts)) leavesNone.1
  | startAction actionName endTime => exact kept.addOther actionName rfl
  | expireActions now => exact kept.expireActions now

theorem actionsKept_initial : ActionsKept (fun _ => False) initial := by
  constructor <;> simp [initial]

/-- No action outlives the task that started it, as long as tasks end with no action of theirs under
way. -/
theorem run_noneOutlives (events : List TaskEvent)
    (leavesNone : Admissible step LeavesNone initial events) :
    (run step initial events).NoneOutlives := by
  apply ActionsKept.noneOutlives
  exact run_invariant (ActionsKept fun _ => False) (fun _ _ kept each => kept.step each)
    actionsKept_initial leavesNone

/-- It is completed by its first tick. -/
theorem run_noneOutlives_completed :
    Admissible step LeavesNone initial
        [.startTask "craft" 0 true ⟨[.startAction "crafting"], false⟩,
          .tick ⟨"craft", 1, 0⟩ ⟨⟨[], false⟩, true, ⟨[], false⟩⟩] ∧
      (run step initial
        [.startTask "craft" 0 true ⟨[.startAction "crafting"], false⟩,
          .tick ⟨"craft", 1, 0⟩ ⟨⟨[], false⟩, true, ⟨[], false⟩⟩]).NoneOutlives := by
  have leavesNone : Admissible step LeavesNone initial
      [.startTask "craft" 0 true ⟨[.startAction "crafting"], false⟩,
        .tick ⟨"craft", 1, 0⟩ ⟨⟨[], false⟩, true, ⟨[], false⟩⟩] := by
    refine ⟨⟨?_, rfl, by decide, trivial⟩, ⟨trivial, trivial⟩, trivial⟩
    intro task isTask
    simp [initial] at isTask
  exact ⟨leavesNone, run_noneOutlives _ leavesNone⟩

/-- Replaced or stopped, it leaves its action. -/
theorem run_action_outlives :
    ¬ (run step initial
      [.startTask "melee" 0 true ⟨[.startAction "melee/strike"], false⟩,
        .startTask "melee" 1 true ⟨[], false⟩]).NoneOutlives ∧
    ¬ (run step initial
      [.startTask "melee" 0 true ⟨[.startAction "melee/strike"], false⟩,
        .stopTask "melee"]).NoneOutlives := by
  constructor
  · intro noneOutlives
    have isThere := noneOutlives "melee/strike" ⟨none, some 0⟩ 0 (by decide +kernel) rfl
    revert isThere
    decide +kernel
  · intro noneOutlives
    have isThere := noneOutlives "melee/strike" ⟨none, some 0⟩ 0 (by decide +kernel) rfl
    revert isThere
    decide +kernel

end RunningTasks

end Cyphesis.Simulation
