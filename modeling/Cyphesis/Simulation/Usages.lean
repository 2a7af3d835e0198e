import Cyphesis.Simulation.MindsProperty

/-!
# Usages

A usage has parameters with a least and a greatest number of arguments, and constraints on them.
-/

namespace Cyphesis.Simulation

open Cyphesis.Atlas
open Cyphesis.Rules

inductive HandlerResult where
  | operationIgnored
  | operationHandled
  | operationBlocked
  deriving DecidableEq

/-- `UsageParameter::Type`. -/
inductive UsageType where
  | entity
  | entityLocation
  | position
  | direction
  deriving DecidableEq

structure EntityLocation (ι π : Type) where
  parent : Option ι
  pos : π

inductive UsageArg (ι π ν : Type) where
  | entityLocation (value : EntityLocation ι π)
  | point (value : π)
  | vector (value : ν)

/-- What a filter is asked about. -/
structure QueryContext (ι π : Type) where
  entity : ι
  actor : ι
  tool : ι
  pos : Option π

/-- A filter, with the errors it reports. -/
abbrev UsageFilter (ι π : Type) : Type :=
  QueryContext ι π → Bool × List String

structure UsageParameter (ι π : Type) where
  type : UsageType
  constraint : Option (UsageFilter ι π)
  min : Int
  max : Int

/-- What an entity can be used for. -/
structure Usage (ι π : Type) where
  params : List (String × UsageParameter ι π)
  handler : String
  constraint : Option (UsageFilter ι π)

structure UsageInstance (ι π ν : Type) where
  definition : Usage ι π
  actor : ι
  tool : ι
  args : List (String × List (UsageArg ι π ν))

/-- The entities, and values of the library. -/
structure UsageWorld (ι π ν : Type) where
  getId : ι → String
  getEntity : String → Option ι
  isDestroyed : ι → Bool
  point : Element → Option π
  noPoint : π
  pointIsValid : π → Bool
  vector : Element → Option ν
  normalize : ν → ν
  vectorIsValid : ν → Bool

variable {ι π ν δ : Type}

namespace UsageWorld

variable (world : UsageWorld ι π ν)

/-- `EntityLocation::isValid`. -/
def locationIsValid (location : EntityLocation ι π) : Bool :=
  location.parent.isSome && world.pointIsValid location.pos

variable (param : UsageParameter ι π)

/-- Constraint of a parameter. -/
def matchEntity (location : EntityLocation ι π) (actor tool : ι) : Bool × List String :=
  match location.parent with
  | none => (false, [])
  | some involved =>
    if world.isDestroyed involved then (false, [])
    else
      match param.constraint with
      | none => (true, [])
      | some isMatch => isMatch ⟨involved, actor, tool, some location.pos⟩

/-- Is it valid, and what was reported. -/
def isValidArg (actor tool : ι) : UsageArg ι π ν → Bool × List String
  | .entityLocation location =>
    match param.type with
    | .entity => world.matchEntity param location actor tool
    | .entityLocation =>
      if world.locationIsValid location then world.matchEntity param location actor tool
      else (false, [])
    | .position => (false, [])
    | .direction => (false, [])
  | .point value =>
    match param.type with
    | .position => (world.pointIsValid value, [])
    | _ => (false, [])
  | .vector value =>
    match param.type with
    | .direction => (world.vectorIsValid value, [])
    | _ => (false, [])

/-- `UsageParameter::countValidArgs`. -/
def countValidArgs (args : List (UsageArg ι π ν)) (actor tool : ι) : Nat × List String :=
  (args.countP fun arg => (world.isValidArg param actor tool arg).1,
    args.flatMap fun arg => (world.isValidArg param actor tool arg).2)

variable (args : List (String × List (UsageArg ι π ν)))

/-- Check of one parameter, with its message. -/
def paramViolation (actor tool : ι) (entry : String × UsageParameter ι π) : Option String :=
  match args.lookup entry.1 with
  | none => some ("Could not find required '" ++ entry.1 ++ "' argument.")
  | some given =>
    let counted := world.countValidArgs entry.2 given actor tool
    if (counted.1 : Int) < entry.2.min then
      some (counted.2.headD ("Too few '" ++ entry.1 ++ "' arguments. Should be minimum " ++
        toString entry.2.min ++ ", got " ++ toString counted.1 ++ "."))
    else if (counted.1 : Int) > entry.2.max then
      some ("Too many '" ++ entry.1 ++ "' arguments. Should be maximum " ++
        toString entry.2.max ++ ", got " ++ toString counted.1 ++ ".")
    else none

variable (params : List (String × UsageParameter ι π))

/-- The loop stops at the first violation. -/
def checkParams (args : List (String × List (UsageArg ι π ν))) (actor tool : ι) : Bool × String :=
  match params.findSome? (world.paramViolation args actor tool) with
  | some message => (false, message)
  | none => (true, "")

variable (usage : UsageInstance ι π ν)

/-- `UsageInstance::isValid`. -/
def isValid : Bool × String :=
  let params := world.checkParams usage.definition.params usage.args usage.actor usage.tool
  match usage.definition.constraint with
  | none => params
  | some isMatch =>
    let answer := isMatch ⟨usage.tool, usage.actor, usage.tool, none⟩
    if answer.1 then params
    else (false, answer.2.headD "Constraint does not match.")

/-- Tool and arguments are as they should be. -/
def Allowed : Prop :=
  (∀ isMatch, usage.definition.constraint = some isMatch →
    (isMatch ⟨usage.tool, usage.actor, usage.tool, none⟩).1 = true) ∧
  ∀ entry ∈ usage.definition.params, ∃ given, usage.args.lookup entry.1 = some given ∧
    entry.2.min ≤ (world.countValidArgs entry.2 given usage.actor usage.tool).1 ∧
    (world.countValidArgs entry.2 given usage.actor usage.tool).1 ≤ entry.2.max

theorem paramViolation_eq_none_iff
    (actor tool : ι) (entry : String × UsageParameter ι π) :
    world.paramViolation args actor tool entry = none ↔
      ∃ given, args.lookup entry.1 = some given ∧
        entry.2.min ≤ (world.countValidArgs entry.2 given actor tool).1 ∧
        (world.countValidArgs entry.2 given actor tool).1 ≤ entry.2.max := by
  unfold paramViolation
  cases found : args.lookup entry.1 with
  | none => simp
  | some given =>
    by_cases few : ((world.countValidArgs entry.2 given actor tool).1 : Int) < entry.2.min
    · simp only [few, if_true, reduceCtorEq, Option.some.injEq, exists_eq_left', false_iff]
      intro bounds
      exact absurd bounds.1 (Int.not_le.mpr few)
    · by_cases many : ((world.countValidArgs entry.2 given actor tool).1 : Int) > entry.2.max
      · simp only [few, many, if_true, if_false, reduceCtorEq, Option.some.injEq,
          exists_eq_left', false_iff]
        intro bounds
        exact absurd bounds.2 (Int.not_le.mpr many)
      · simp only [few, many, if_false, Option.some.injEq, exists_eq_left', true_iff]
        exact ⟨Int.not_lt.mp few, Int.not_lt.mp many⟩

theorem checkParams_iff
    (args : List (String × List (UsageArg ι π ν))) (actor tool : ι) :
    (world.checkParams params args actor tool).1 = true ↔
      ∀ entry ∈ params, world.paramViolation args actor tool entry = none := by
  unfold checkParams
  rw [← List.findSome?_eq_none_iff]
  cases params.findSome? (world.paramViolation args actor tool) with
  | none => simp
  | some message => simp

theorem isValid_iff_allowed : (world.isValid usage).1 = true ↔ world.Allowed usage := by
  have params :
      (world.checkParams usage.definition.params usage.args usage.actor usage.tool).1 = true ↔
        ∀ entry ∈ usage.definition.params, ∃ given, usage.args.lookup entry.1 = some given ∧
          entry.2.min ≤ (world.countValidArgs entry.2 given usage.actor usage.tool).1 ∧
          (world.countValidArgs entry.2 given usage.actor usage.tool).1 ≤ entry.2.max := by
    rw [checkParams_iff]
    simp only [paramViolation_eq_none_iff]
  unfold isValid Allowed
  rw [← params]
  cases usage.definition.constraint with
  | none => simp
  | some isMatch =>
    cases answer : (isMatch ⟨usage.tool, usage.actor, usage.tool, none⟩).1 with
    | false => simp [answer]
    | true => simp [answer]

end UsageWorld

/-- A refusal, or an exception. -/
inductive ReadFailure where
  | refused (text : String)
  | thrown

namespace UsageWorld

variable (world : UsageWorld ι π ν)

/-- One argument of a parameter of entities. -/
def readEntityArg (name : String) : Element → Except ReadFailure (UsageArg ι π ν)
  | .map entries =>
    match entries.lookup "id" with
    | some (.string id) =>
      match world.getEntity id with
      | none => .error (.refused "Involved entity does not exist")
      | some involved =>
        match entries.lookup "pos" with
        | some (.list items) =>
          match world.point (.list items) with
          | none => .error .thrown
          | some pos => .ok (.entityLocation ⟨some involved, pos⟩)
        | _ => .ok (.entityLocation ⟨some involved, world.noPoint⟩)
    | _ =>
      .error (.refused
        ("Inner argument in list of arguments for '" ++ name ++ "' had no id string."))
  | _ =>
    .error (.refused ("Inner argument in list of arguments for '" ++ name ++ "' was not a map."))

/-- One argument, by its parameter's type. -/
def readArg (name : String) (type : UsageType) (element : Element) :
    Except ReadFailure (UsageArg ι π ν) :=
  match type with
  | .entity => world.readEntityArg name element
  | .entityLocation => world.readEntityArg name element
  | .position =>
    match world.point element with
    | none => .error .thrown
    | some value => .ok (.point value)
  | .direction =>
    match world.vector element with
    | none => .error .thrown
    | some value => .ok (.vector (world.normalize value))

/-- Arguments for one parameter. -/
def readParam (attributes : List (String × Element)) (entry : String × UsageParameter ι π) :
    Except ReadFailure (String × List (UsageArg ι π ν)) :=
  match attributes.lookup entry.1 with
  | some (.list items) => do
      let given ← items.mapM (world.readArg entry.1 entry.2.type)
      return (entry.1, given)
  | _ => .error (.refused ("Could not find required list argument '" ++ entry.1 ++ "'."))

/-- Loop that fills `usage_instance_args`. -/
def readArgs (params : List (String × UsageParameter ι π))
    (attributes : List (String × Element)) :
    Except ReadFailure (List (String × List (UsageArg ι π ν))) :=
  params.mapM (world.readParam attributes)

end UsageWorld

/-- Result, operations, and the script started. -/
structure UseReport (α δ : Type) where
  result : Option HandlerResult
  res : List (MindOp δ)
  started : Option α

/-- Factories for operations and the scripts. -/
structure UsageScripts (ι π ν δ : Type) where
  /-- Is this the name of a class of operations? -/
  isOperationType : String → Bool
  /-- The function a handler names, if any. -/
  handler : String → Option (UsageInstance ι π ν → Option (HandlerResult × List (MindOp δ)))

/-- `use_handler`, before it reads arguments. -/
structure DirectUse (ι π δ : Type) where
  actor : ι
  usage : Usage ι π
  arguments : Fields δ

namespace UseReport

variable {α : Type}

def ignored : UseReport α δ :=
  ⟨some .operationIgnored, [], none⟩

/-- Refuse an operation with an error. -/
def refuse (result : HandlerResult) (op : MindOp δ) (text recipient : String) : UseReport α δ :=
  ⟨some result, [op.clientError text recipient], none⟩

/-- A report on unread arguments. -/
def unread (op : MindOp δ) (recipient : String) : ReadFailure → UseReport α δ
  | .refused text => refuse .operationIgnored op text recipient
  | .thrown => ⟨none, [], none⟩

end UseReport

namespace UsageWorld

variable (world : UsageWorld ι π ν) (scripts : UsageScripts ι π ν δ)

variable (usages : List (String × Usage ι π)) (e : ι) (op : MindOp δ)

/-- `use_handler` up to the lookup of the usage. -/
def findUsage : Except (UseReport (UsageInstance ι π ν) δ) (DirectUse ι π δ) :=
  match op.args with
  | [] => .error .ignored
  | arg :: _ =>
    match arg.asOperation with
    | none => .error .ignored
    | some argOp =>
      match world.getEntity (op.header.sender.getD "") with
      | none =>
        .error (.refuse .operationIgnored op "Could not find 'from' entity."
          (world.getId e))
      | some actor =>
        let refuse (text : String) :=
          Except.error (.refuse .operationIgnored op text (world.getId actor))
        if op.header.sender.isNone then refuse "Top op has no 'from' attribute."
        else if argOp.header.parent = "" then refuse "Use arg op has malformed parent"
        else if scripts.isOperationType argOp.header.parent = false then .error .ignored
        else
          match argOp.args with
          | [] => refuse "Use arg op has no arguments; one expected."
          | arguments :: _ =>
            match usages.lookup argOp.header.parent with
            | none => .error .ignored
            | some usage => .ok ⟨actor, usage, arguments.fields⟩

variable (usage : UsageInstance ι π ν)

/-- `use_handler` after the arguments are read. -/
def startHandler : UseReport (UsageInstance ι π ν) δ :=
  let verdict := world.isValid usage
  if verdict.1 = false then
    .refuse .operationBlocked op verdict.2 (world.getId usage.actor)
  else if usage.definition.handler.contains '.' then
    match scripts.handler usage.definition.handler with
    | none =>
      .refuse .operationIgnored op
        ("Could not find Python function " ++ usage.definition.handler)
        (world.getId usage.actor)
    | some call =>
      match call usage with
      | some (result, ops) => ⟨some result, ops, some usage⟩
      | none => ⟨some .operationBlocked, [], some usage⟩
  else ⟨some .operationBlocked, [], none⟩

/-- `UsagesProperty::use_handler`. -/
def useHandler : UseReport (UsageInstance ι π ν) δ :=
  match world.findUsage scripts usages e op with
  | .error report => report
  | .ok found =>
    match world.readArgs found.usage.params found.arguments.attributes with
    | .error failure => .unread op (world.getId found.actor) failure
    | .ok args => world.startHandler scripts op ⟨found.usage, found.actor, e, args⟩

/-- A script if allowed, and an error if not. -/
def Checks {α : Type} (usage : UsageInstance ι π ν) (report : UseReport α δ) : Prop :=
  (report.started.isSome → world.Allowed usage) ∧
  (¬world.Allowed usage → ∃ error ∈ report.res, error.header.classNo = .error)

theorem classNo_clientError (text recipient : String) :
    (op.clientError text recipient).header.classNo = .error := by
  unfold MindOp.clientError
  split
  · rfl
  · rfl

theorem startHandler_started_iff :
    (world.startHandler scripts op usage).started.isSome ↔
      world.Allowed usage ∧ usage.definition.handler.contains '.' = true ∧
        (scripts.handler usage.definition.handler).isSome := by
  rw [← isValid_iff_allowed]
  unfold startHandler
  cases verdict : (world.isValid usage).1 with
  | false => simp [verdict, UseReport.refuse]
  | true =>
    cases dotted : usage.definition.handler.contains '.' with
    | false => simp [verdict]
    | true =>
      cases found : scripts.handler usage.definition.handler with
      | none => simp [verdict, UseReport.refuse]
      | some call =>
        cases answer : call usage with
        | none => simp [verdict, answer]
        | some returned => simp [verdict, answer]

theorem startHandler_checks : world.Checks usage (world.startHandler scripts op usage) := by
  constructor
  · intro started
    exact ((world.startHandler_started_iff scripts op usage).mp started).1
  · intro refused
    have verdict : (world.isValid usage).1 = false := by
      rw [← isValid_iff_allowed] at refused
      exact Bool.eq_false_iff.mpr refused
    unfold startHandler
    simp only [verdict, if_true, UseReport.refuse]
    exact ⟨_, List.mem_singleton_self _, classNo_clientError _ _ _⟩

end UsageWorld

end Cyphesis.Simulation
