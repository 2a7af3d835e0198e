import Cyphesis.Simulation.Usages

/-!
# Usages of tasks

A `Use` operation may name a task, whose script declares usages of its own, without a constraint.
Its instance is that of the usage that started the task, with other parameters.
-/

namespace Cyphesis.Simulation

open Cyphesis.Atlas

variable {ι π ν δ : Type}

structure TaskUsage (ι π : Type) where
  name : String
  params : List (String × UsageParameter ι π)

/-- A task, its usages and its script. -/
structure Task (ι π ν δ : Type) where
  usageInstance : UsageInstance ι π ν
  usages : List (TaskUsage ι π)
  isObsolete : Bool
  script : String → Option (List (String × List (UsageArg ι π ν)) → Option (List (MindOp δ)) × Bool)

/-- Call of a script of a task. -/
structure TaskCall (ι π ν : Type) where
  function : String
  args : List (String × List (UsageArg ι π ν))

/-- Found out before the arguments are read. -/
structure TaskUse (ι π ν δ : Type) where
  actor : ι
  taskId : String
  task : Task ι π ν δ
  usage : TaskUsage ι π
  arguments : List (String × Element)

/-- The tasks, and whether an `Update` is under way. -/
structure TasksProperty (ι π ν δ : Type) where
  tasks : List (String × Task ι π ν δ)
  updateQueued : Bool

/-- Inner arguments: ids and attributes. -/
structure InnerArg where
  id : Option String
  attributes : List (String × Element)

namespace TaskUse

/-- Instance that a usage of a task makes. -/
def instanceWith (found : TaskUse ι π ν δ) (args : List (String × List (UsageArg ι π ν))) :
    UsageInstance ι π ν :=
  { found.task.usageInstance with
    definition := { found.task.usageInstance.definition with params := found.usage.params }
    args := args }

end TaskUse

namespace UsageWorld

variable (world : UsageWorld ι π ν)

def areUsageParamsValid (params : List (String × UsageParameter ι π))
    (args : List (String × List (UsageArg ι π ν))) (usageInstance : UsageInstance ι π ν) :
    Bool × String :=
  world.checkParams params args usageInstance.actor usageInstance.tool

/-- `UseOperation` up to the lookup of the usage. -/
def findTaskUsage (parseListOfObjects : List Element → List InnerArg)
    (tasks : List (String × Task ι π ν δ)) (e : ι) (op : MindOp δ) :
    Except (UseReport (TaskCall ι π ν) δ) (TaskUse ι π ν δ) :=
  match op.args with
  | [] => .error .ignored
  | arg :: _ =>
    if arg.fields.objtype ≠ "task" then .error .ignored
    else
      match world.getEntity (op.header.sender.getD "") with
      | none =>
        .error (.refuse .operationBlocked op "Could not find 'from' entity." (world.getId e))
      | some actor =>
        let refuse (text : String) :=
          Except.error (.refuse .operationBlocked op text (world.getId actor))
        if op.header.sender.isNone then refuse "Top op has no 'from' attribute."
        else
          match arg.fields.id with
          | none => refuse "Use arg for task has no id"
          | some taskId =>
            match tasks.lookup taskId with
            | none => .error .ignored
            | some task =>
              match arg.fields.attributes.lookup "args" with
              | none => refuse "Use arg for task has no args"
              | some (.list items) =>
                match parseListOfObjects items with
                | [] => refuse "Use arg for task has empty args"
                | innerArg :: _ =>
                  match innerArg.id with
                  | none => refuse "Use arg for task has arg without id"
                  | some usageId =>
                    match task.usages.find? fun usage => usage.name = usageId with
                    | none =>
                      refuse ("Usage does " ++ usageId ++
                        " not exist in task " ++ taskId ++ ".")
                    | some usage =>
                      .ok ⟨actor, taskId, task, usage, innerArg.attributes⟩
              | some _ => refuse "Use arg for task has invalid args"

end UsageWorld

namespace TasksProperty

variable (world : UsageWorld ι π ν) (parseListOfObjects : List Element → List InnerArg)

variable (property : TasksProperty ι π ν δ)

/-- `updateTask`: an `Update`, unless under way. -/
def updateTask (owner : String) : TasksProperty ι π ν δ × List (MindOp δ) :=
  if property.updateQueued then (property, [])
  else
    ({ property with updateQueued := true }, [(MindOp.new (.other 0) "update" []).setTo owner])

def clearTask (id owner : String) : TasksProperty ι π ν δ × List (MindOp δ) :=
  updateTask { property with tasks := property.tasks.filter fun entry => entry.1 ≠ id } owner

def callUsageScriptFunction (task : Task ι π ν δ) (function : String)
    (args : List (String × List (UsageArg ι π ν))) :
    List (MindOp δ) × Bool × Option (TaskCall ι π ν) :=
  match task.script function with
  | none => ([], task.isObsolete, none)
  | some call =>
    match call args with
    | (some ops, isObsolete) => (ops, isObsolete, some ⟨function, args⟩)
    | (none, _) => ([], true, some ⟨function, args⟩)

/-- `UseOperation` after the arguments. -/
def startUsage (e : ι) (found : TaskUse ι π ν δ)
    (args : List (String × List (UsageArg ι π ν))) :
    TasksProperty ι π ν δ × UseReport (TaskCall ι π ν) δ :=
  let _validRes := world.areUsageParamsValid found.usage.params args found.task.usageInstance
  let called := callUsageScriptFunction found.task (found.usage.name ++ "_usage") args
  let updated :=
    if called.2.1 then property.clearTask found.taskId (world.getId e)
    else property.updateTask (world.getId e)
  (updated.1, ⟨some .operationBlocked, called.1 ++ updated.2, called.2.2⟩)

def useOperation (e : ι) (op : MindOp δ) : TasksProperty ι π ν δ × UseReport (TaskCall ι π ν) δ :=
  match world.findTaskUsage parseListOfObjects property.tasks e op with
  | .error report => (property, report)
  | .ok found =>
    match world.readArgs found.usage.params found.arguments with
    | .error failure => (property, .unread op (world.getId found.actor) failure)
    | .ok args => property.startUsage world e found args

variable (scripts : UsageScripts ι π ν δ) (usages : List (String × Usage ι π))

/-- The handler gets what is allowed, others an error. -/
def DirectAgrees (e : ι) (op : MindOp δ) : Prop :=
  ∀ found args, world.findUsage scripts usages e op = .ok found →
    world.readArgs found.usage.params found.arguments.attributes = .ok args →
    ((world.useHandler scripts usages e op).started.isSome ↔
      world.Allowed ⟨found.usage, found.actor, e, args⟩ ∧
        found.usage.handler.contains '.' = true ∧ (scripts.handler found.usage.handler).isSome) ∧
    world.Checks ⟨found.usage, found.actor, e, args⟩ (world.useHandler scripts usages e op)

/-- A script is started only for an allowed instance. -/
def TaskAgrees (e : ι) (op : MindOp δ) : Prop :=
  ((property.useOperation world parseListOfObjects e op).2.started.isSome →
    ∃ found args, world.findTaskUsage parseListOfObjects property.tasks e op = .ok found ∧
      world.readArgs found.usage.params found.arguments = .ok args ∧
      world.Allowed (found.instanceWith args)) ∧
  ∀ found args, world.findTaskUsage parseListOfObjects property.tasks e op = .ok found →
    world.readArgs found.usage.params found.arguments = .ok args →
    world.Checks (found.instanceWith args) (property.useOperation world parseListOfObjects e op).2 ∧
    (¬world.Allowed (found.instanceWith args) →
      (property.useOperation world parseListOfObjects e op).1.tasks = property.tasks)

theorem directAgrees (e : ι) (op : MindOp δ) : DirectAgrees world scripts usages e op := by
  intro found args finds reads
  have handled : world.useHandler scripts usages e op =
      world.startHandler scripts op ⟨found.usage, found.actor, e, args⟩ := by
    unfold UsageWorld.useHandler
    simp only [finds, reads]
  rw [handled]
  constructor
  · exact world.startHandler_started_iff scripts op _
  · exact world.startHandler_checks scripts op _

variable {world parseListOfObjects}

section

variable {e : ι} {op : MindOp δ}

theorem useOperation_of_read {property : TasksProperty ι π ν δ}
    {found : TaskUse ι π ν δ} {args : List (String × List (UsageArg ι π ν))}
    (finds : world.findTaskUsage parseListOfObjects property.tasks e op = .ok found)
    (reads : world.readArgs found.usage.params found.arguments = .ok args) :
    property.useOperation world parseListOfObjects e op =
      property.startUsage world e found args := by
  unfold useOperation
  simp only [finds, reads]

theorem findTaskUsage_error_started {tasks : List (String × Task ι π ν δ)}
    {report : UseReport (TaskCall ι π ν) δ}
    (fails : world.findTaskUsage parseListOfObjects tasks e op = .error report) :
    report.started = none := by
  unfold UsageWorld.findTaskUsage at fails
  repeat' split at fails
  all_goals
    cases fails
    try rfl

theorem exists_of_started {property : TasksProperty ι π ν δ}
    (started : (property.useOperation world parseListOfObjects e op).2.started.isSome) :
    ∃ found args, world.findTaskUsage parseListOfObjects property.tasks e op = .ok found ∧
      world.readArgs found.usage.params found.arguments = .ok args := by
  unfold useOperation at started
  cases finds : world.findTaskUsage parseListOfObjects property.tasks e op with
  | error report =>
    simp only [finds, findTaskUsage_error_started finds] at started
    cases started
  | ok found =>
    cases reads : world.readArgs found.usage.params found.arguments with
    | error failure =>
      simp only [finds, reads] at started
      cases failure with
      | refused text => cases started
      | thrown => cases started
    | ok args => exact ⟨found, args, rfl, reads⟩

end

theorem classNo_updateTask (property : TasksProperty ι π ν δ) (owner : String) :
    ∀ op ∈ (property.updateTask owner).2, op.header.classNo = .other 0 := by
  intro op listed
  unfold updateTask at listed
  split at listed
  · cases listed
  · rw [List.mem_singleton.mp listed]
    rfl

theorem startUsage_not_error {property : TasksProperty ι π ν δ} {e : ι}
    {found : TaskUse ι π ν δ} {args : List (String × List (UsageArg ι π ν))}
    (idle : (property.startUsage world e found args).2.started = none) :
    ∀ op ∈ (property.startUsage world e found args).2.res, op.header.classNo ≠ .error := by
  intro op listed isError
  have absent : found.task.script (found.usage.name ++ "_usage") = none := by
    cases present : found.task.script (found.usage.name ++ "_usage") with
    | none => rfl
    | some call =>
      cases answer : call args with
      | mk ops isObsolete =>
        cases ops with
        | none => simp [startUsage, callUsageScriptFunction, present, answer] at idle
        | some ops => simp [startUsage, callUsageScriptFunction, present, answer] at idle
  have updates : op ∈ (property.updateTask (world.getId e)).2 ∨
      op ∈ (property.clearTask found.taskId (world.getId e)).2 := by
    simp only [startUsage, callUsageScriptFunction, absent, List.nil_append] at listed
    split at listed
    · exact .inr listed
    · exact .inl listed
  have other : op.header.classNo = .other 0 := by
    rcases updates with updates | updates
    · exact classNo_updateTask _ _ op updates
    · exact classNo_updateTask _ _ op updates
  rw [other] at isError
  cases isError

variable (world parseListOfObjects)

/-- A usage through a tool is always checked, and one of a task exactly if its arguments happen to
be valid. -/
theorem useOperation_agrees_iff (scripts : UsageScripts ι π ν δ)
    (usages : List (String × Usage ι π)) (property : TasksProperty ι π ν δ) (e : ι)
    (op : MindOp δ) :
    DirectAgrees world scripts usages e op ∧
    (TaskAgrees world parseListOfObjects property e op ↔
      ∀ found args, world.findTaskUsage parseListOfObjects property.tasks e op = .ok found →
        world.readArgs found.usage.params found.arguments = .ok args →
        (world.isValid (found.instanceWith args)).1 = true) := by
  constructor
  · exact directAgrees world scripts usages e op
  · constructor
    · intro agrees found args finds reads
      rw [world.isValid_iff_allowed]
      by_contra refused
      have checks := (agrees.2 found args finds reads).1
      obtain ⟨error, listed, isError⟩ := checks.2 refused
      have idle : (property.useOperation world parseListOfObjects e op).2.started = none := by
        rw [← Option.not_isSome_iff_eq_none]
        intro started
        exact refused (checks.1 started)
      rw [useOperation_of_read finds reads] at idle listed
      exact startUsage_not_error idle error listed isError
    · intro valid
      have allowed : ∀ found args,
          world.findTaskUsage parseListOfObjects property.tasks e op = .ok found →
          world.readArgs found.usage.params found.arguments = .ok args →
          world.Allowed (found.instanceWith args) := by
        intro found args finds reads
        exact (world.isValid_iff_allowed _).mp (valid found args finds reads)
      constructor
      · intro started
        obtain ⟨found, args, finds, reads⟩ := exists_of_started started
        exact ⟨found, args, finds, reads, allowed found args finds reads⟩
      · intro found args finds reads
        have holds := allowed found args finds reads
        exact ⟨⟨fun _ => holds, fun refused => absurd holds refused⟩,
          fun refused => absurd holds refused⟩

/-- A task for one entity is called with none. -/
theorem useOperation_starts_without_target :
    ¬TaskAgrees (ι := Unit) (π := Unit) (ν := Unit) (δ := Unit)
      ⟨fun _ => "1", fun _ => some (), fun _ => false, fun _ => some (), (), fun _ => true,
        fun _ => some (), id, fun _ => true⟩
      (fun _ => [⟨some "aim", [("target", .list [])]⟩])
      ⟨[("cut", ⟨⟨⟨[], "cut.start", none⟩, (), (), []⟩,
        [⟨"aim", [("target", ⟨.entity, none, 1, 1⟩)]⟩], false,
        fun _ => some fun _ => (some [], false)⟩)], false⟩
      ()
      ((MindOp.new .use "use"
        [.root ⟨"task", some "cut", none, none, [("args", .list [.map []])]⟩]).setFrom "1") := by
  intro agrees
  have allowed := (agrees.2 _ _ rfl rfl).1.1 rfl
  obtain ⟨given, found, least, -⟩ := allowed.2 _ (List.mem_singleton_self _)
  cases found
  exact absurd least (by decide)

end TasksProperty

end Cyphesis.Simulation
