import Cyphesis.Rules.Reach

/-!
# The filter on operations from minds

`externalOperation` wraps what a client sends in Thoughts, and `mind2body` makes of it what the
entity is to do. Arguments can be anything. References and casts are options; a use of one that is
empty is a fault.
-/

namespace Cyphesis.Simulation

open Cyphesis.Atlas List Option
open Cyphesis.Rules

/-- The classes of operations that the filter tells apart. -/
inductive MindOpClass where
  | create
  | delete
  | imaginary
  | look
  | move
  | set
  | talk
  | touch
  | use
  | wield
  | thought
  | goalInfo
  | think
  | get
  | tick
  | sight
  | unseen
  | error
  | info
  | relay
  | other (number : Nat)
  deriving DecidableEq

/-- Attributes of an object. -/
structure Fields (δ : Type) where
  objtype : String
  id : Option String
  loc : Option String
  pos : Option (List δ)
  attributes : List (String × Element)

structure Header where
  classNo : MindOpClass
  parent : String
  serialno : Option Int
  refno : Option Int
  target : Option String
  sender : Option String
  futureSeconds : Bool

/-- An entity, an operation or an object. -/
inductive AtlasObject (δ : Type) where
  | entity (isAnonymous : Bool) (fields : Fields δ)
  | operation (header : Header) (fields : Fields δ) (args : List (AtlasObject δ))
  | root (fields : Fields δ)

/-- An operation. -/
structure MindOp (δ : Type) where
  header : Header
  fields : Fields δ
  args : List (AtlasObject δ)

variable {ι δ : Type}

def AtlasObject.fields : AtlasObject δ → Fields δ
  | .entity _ fields => fields
  | .operation _ fields _ => fields
  | .root fields => fields

/-- `smart_dynamic_cast<Operation>`. -/
def AtlasObject.asOperation : AtlasObject δ → Option (MindOp δ)
  | .operation header fields args => some ⟨header, fields, args⟩
  | _ => none

/-- `smart_dynamic_cast<RootEntity>`. -/
def AtlasObject.asRootEntity : AtlasObject δ → Option (Fields δ)
  | .entity _ fields => some fields
  | _ => none

/-- `smart_dynamic_cast<Anonymous>`. -/
def AtlasObject.asAnonymous : AtlasObject δ → Option (Fields δ)
  | .entity true fields => some fields
  | _ => none

namespace MindOp

variable (op : MindOp δ)

def object : AtlasObject δ :=
  .operation op.header op.fields op.args

def setTo (id : String) : MindOp δ :=
  { op with header := { op.header with target := some id } }

def setFrom (id : String) : MindOp δ :=
  { op with header := { op.header with sender := some id } }

/-- A new operation with arguments. -/
def new (classNo : MindOpClass) (parent : String) (args : List (AtlasObject δ)) : MindOp δ :=
  { header :=
      { classNo := classNo, parent := parent, serialno := none, refno := none, target := none,
        sender := none, futureSeconds := false }
    fields := { objtype := "op", id := none, loc := none, pos := none, attributes := [] }
    args := args }

/-- A new `Anonymous` entity. -/
def anonymous (id : Option String) (attributes : List (String × Element)) : AtlasObject δ :=
  .entity true { objtype := "obj", id := id, loc := none, pos := none, attributes := attributes }

def clientError (text recipient : String) : MindOp δ :=
  let error := new .error "error" [anonymous none [("message", .string text)], op.object]
  if recipient = "" then error
  else
    { error with
      header := { error.header with refno := op.header.serialno, target := some recipient } }

end MindOp

/-- A constraint on the entity, the mover and the place. -/
abbrev Constraint (ι : Type) : Type :=
  ι → ι → Option ι → Bool × List String

structure MindWorld (ι δ : Type) where
  scene : ReachScene ι δ
  getId : ι → String
  getEntity : String → Option ι
  moverConstraint : ι → Option (Constraint ι)
  moveConstraint : ι → Option (Constraint ι)
  containConstraint : ι → Option (Constraint ι)
  destinationConstraint : ι → Option (Constraint ι)
  /-- The radius of the scaled bounding sphere of an entity. -/
  radius : ι → δ
  /-- `_propel`, no longer than one. -/
  propel : Element → Option Element
  /-- `Inheritance::getClass`, as seen in an entity. -/
  getClass : ι → String → Option Element

namespace MindWorld

variable [DecidableEq ι] [Zero δ] [Add δ] (world : MindWorld ι δ)

/-- The message, if it is not met. -/
def violation (constraint : Option (Constraint ι)) (other ent : ι) (place : Option ι) :
    Option String :=
  match constraint with
  | none => none
  | some isMatch =>
    if (isMatch other ent place).1 then none
    else some ((isMatch other ent place).2.headD "You can't move this entity.")

/-- A position has three coordinates, when there is one. -/
def IsPoint (pos : Option (List δ)) : Prop :=
  ∀ coordinates ∈ pos, coordinates.length = 3

instance (pos : Option (List δ)) : Decidable (IsPoint pos) := by
  unfold IsPoint
  infer_instance

/-- `Point::fromAtlas` throws for any other number of coordinates. -/
def fromAtlas (pos : Option (List δ)) : Except Fault (Option (List δ)) :=
  if IsPoint pos then .ok pos else .error .badPoint

variable (ent : ι)

variable (op : MindOp δ)

def mindUseOperation : List (MindOp δ) :=
  match op.args with
  | [] => []
  | firstArg :: _ =>
    let useOp := (MindOp.new .use "use" []).setFrom (world.getId ent)
    if firstArg.fields.objtype = "op" then
      match firstArg.asOperation with
      | none => []
      | some innerOp =>
        match innerOp.args with
        | [] => []
        | innerArg :: _ =>
          match innerArg.asRootEntity with
          | none => []
          | some toolEnt =>
            match toolEnt.id with
            | none => []
            | some id => [{ useOp.setTo id with args := [innerOp.object] }]
    else if firstArg.fields.objtype = "task" then
      [{ useOp.setTo (world.getId ent) with args := op.args }]
    else [useOp]

variable (arg : Fields δ)

/-- Arguments for moving another. -/
def movedArgs : AtlasObject δ :=
  .entity false
    { objtype := "obj", id := arg.id, loc := arg.loc, pos := arg.pos
      attributes := arg.attributes.filter fun entry =>
        entry.1 = "orientation" ∨ entry.1 = "amount" }

/-- `moveOtherEntity`, to where the entity is. -/
def moveOtherEntity (otherId : String) : Except Fault (List (MindOp δ)) :=
  let refuse (text : String) : Except Fault (List (MindOp δ)) :=
    .ok [op.clientError text (world.getId ent)]
  let refuseSender (text : String) : Except Fault (List (MindOp δ)) :=
    .ok [op.clientError text (op.header.sender.getD "")]
  match world.getEntity otherId with
  | none =>
    .ok [(MindOp.new .unseen "unseen" [MindOp.anonymous (some otherId) []]).setTo
      (world.getId ent)]
  | some other =>
    match violation (world.moverConstraint ent) other ent none with
    | some message => refuse message
    | none =>
    match violation (world.moveConstraint other) other ent none with
    | some message => refuse message
    | none =>
    match (world.scene.parent other).bind fun above =>
        violation (world.containConstraint above) other ent (some above) with
    | some message => refuse message
    | none => do
        let reached ← world.scene.canReach ent (some other) none 0
        if reached = false then refuseSender "Entity is too far away."
        else
          match arg.loc.elim (world.scene.parent other) world.getEntity with
          | none => refuseSender "Target parent entity doesn't exist."
          | some targetLoc =>
            match violation (world.destinationConstraint targetLoc) other ent (some targetLoc) with
            | some message => refuse message
            | none => do
                let targetPos ← fromAtlas arg.pos
                let reached ← world.scene.canReach ent (some targetLoc) targetPos
                  (world.radius other)
                if reached = false then refuseSender "Target is too far away."
                else do
                  let above ← deref .missingParent (world.scene.parent other)
                  return [({ op with args := [movedArgs arg] }.setFrom
                    (world.getId ent)).setTo (world.getId above)]

def mindMoveOperation : Except Fault (List (MindOp δ)) :=
  match op.args with
  | [] => .ok []
  | first :: _ =>
    match first.asRootEntity with
    | none => .ok []
    | some arg =>
      match arg.id with
      | none => .ok []
      | some otherId =>
        if otherId ≠ world.getId ent then world.moveOtherEntity ent op arg otherId
        else .ok [op.clientError "You can't move yourself." (world.getId ent)]

/-- Only steering may be set. -/
def mindSetOperation : List (MindOp δ) :=
  match op.args with
  | [] => []
  | arg :: _ =>
    let cleaned := arg.fields.attributes.filterMap fun entry =>
      if entry.1 = "_propel" then (world.propel entry.2).map fun value => (entry.1, value)
      else if entry.1 = "_direction" ∨ entry.1 = "_destination" then some entry
      else none
    let setOp := ((MindOp.new .set "set"
      [MindOp.anonymous (some (world.getId ent)) cleaned]).setTo (world.getId ent)).setFrom
        (world.getId ent)
    [{ setOp with header := { setOp.header with serialno := op.header.serialno } }]

def mindLookOperation : List (MindOp δ) :=
  match op.args with
  | [] =>
    match world.scene.parent ent with
    | some above => [op.setTo (world.getId above)]
    | none => []
  | arg :: _ =>
    match arg.fields.id with
    | none => []
    | some id => [op.setTo id]

/-- `mindTouchOperation` checks neither the cast nor whether the entity is there. -/
def mindTouchOperation : Except Fault (List (MindOp δ)) :=
  match op.args with
  | [] => .ok []
  | first :: _ => do
      let arg ← deref .failedCast first.asAnonymous
      match arg.id with
      | none => return []
      | some id =>
        let pos ← fromAtlas arg.pos
        let reached ← world.scene.canReach ent (world.getEntity id) pos 0
        if reached then
          return [op.setTo id, MindOp.new .sight "sight" [(op.setTo id).object]]
        else
          return [op.clientError "Entity is too far away." (op.header.sender.getD "")]

/-- Pass an operation on to the entity. -/
def passToEntity : List (MindOp δ) :=
  [op.setTo (world.getId ent)]

def mindWieldOperation : List (MindOp δ) :=
  world.passToEntity ent op

def mindCreateOperation : List (MindOp δ) :=
  world.passToEntity ent op

def mindDeleteOperation : List (MindOp δ) :=
  world.passToEntity ent op

def mindImaginaryOperation : List (MindOp δ) :=
  world.passToEntity ent op

def mindTalkOperation : List (MindOp δ) :=
  world.passToEntity ent op

def mindGoalInfoOperation : List (MindOp δ) :=
  world.passToEntity ent op

def mindOtherOperation : List (MindOp δ) :=
  world.passToEntity ent op

def mindThoughtOperation : List (MindOp δ) :=
  world.passToEntity ent op

def mindThinkOperation : List (MindOp δ) :=
  world.passToEntity ent op

/-- `mind2body`, in which an operation for later is only reported. -/
def mind2body : Except Fault (List (MindOp δ)) :=
  if op.header.target.isSome then .ok []
  else
    match op.header.classNo with
    | .create => .ok (world.mindCreateOperation ent op)
    | .delete => .ok (world.mindDeleteOperation ent op)
    | .imaginary => .ok (world.mindImaginaryOperation ent op)
    | .look => .ok (world.mindLookOperation ent op)
    | .move => world.mindMoveOperation ent op
    | .set => .ok (world.mindSetOperation ent op)
    | .talk => .ok (world.mindTalkOperation ent op)
    | .touch => world.mindTouchOperation ent op
    | .use => .ok (world.mindUseOperation ent op)
    | .wield => .ok (world.mindWieldOperation ent op)
    | .thought => .ok (world.mindThoughtOperation ent op)
    | .goalInfo => .ok (world.mindGoalInfoOperation ent op)
    | .think => .ok (world.mindThinkOperation ent op)
    | _ => .ok (world.mindOtherOperation ent op)

variable (serialno : Option Int)

/-- The first takes its number. -/
def markFirst : List (MindOp δ) → List (MindOp δ)
  | [] => []
  | first :: rest =>
    { first with
      header := { first.header with serialno := first.header.serialno.or serialno } } :: rest

/-- The loop of `thoughtOperation` over the arguments of the Thought. -/
def thoughtOperation (ent : ι) (serialno : Option Int) :
    List (AtlasObject δ) → Except Fault (List (MindOp δ))
  | [] => .ok []
  | arg :: rest =>
    match arg.asOperation with
    | none => thoughtOperation ent serialno rest
    | some innerOp => do
        let mres ← world.mind2body ent innerOp
        let later ← thoughtOperation ent serialno rest
        return (markFirst serialno mres).map (·.setFrom (world.getId ent)) ++ later

/-- An operation that was relayed and waits for its answer. -/
structure RelayEntry where
  sender : Option String
  serialno : Option Int
  id : Option String
  fromId : String

/-- What is sent, and the relays that remain. -/
structure MindResult (δ : Type) where
  toWorld : List (MindOp δ)
  toLink : List (MindOp δ)
  relays : List (Int × RelayEntry)

def externalRelayedOperation (relays : List (Int × RelayEntry)) (refno : Int) (op : MindOp δ) :
    MindResult δ :=
  match relays.find? (·.1 = refno) with
  | none => ⟨[], [], relays⟩
  | some (_, relay) =>
    let relayOp := MindOp.new .relay "relay" [op.object]
    let answer : List (MindOp δ) :=
      match relay.sender, relay.serialno, relay.id with
      | some sender, some serialno, some _ =>
        [{ relayOp.setTo sender with
            header := { (relayOp.setTo sender).header with refno := some serialno }
            fields := { relayOp.fields with id := some relay.fromId } }]
      | _, _, _ => []
    ⟨answer, [], relays.filter (·.1 ≠ refno)⟩

def getOperation : List (MindOp δ) :=
  let ids := op.args.filterMap fun arg => arg.fields.id
  let unknown := ids.filter fun id => (world.getClass ent id).isNone
  let rules := ids.filterMap fun id =>
    (world.getClass ent id).map fun description =>
      (AtlasObject.root { objtype := "class", id := some id, loc := none, pos := none,
                          attributes := [("class", description)] } : AtlasObject δ)
  let info := MindOp.new .info "info" rules
  unknown.map (fun id =>
      op.clientError ("Unknown type definition for \"" ++ id ++ "\" requested") "") ++
    [{ info with header := { info.header with refno := op.header.serialno } }]

/-- `MindsProperty::externalOperation`: answers to a relay, a Get, or a thought. -/
def externalOperation (mindId : String) (relays : List (Int × RelayEntry))
    (op : MindOp δ) : Except Fault (MindResult δ) :=
  match op.header.refno with
  | some refno => .ok (externalRelayedOperation relays refno op)
  | none =>
    if op.header.classNo = .get then
      .ok ⟨[], (world.getOperation ent op).map (·.setTo mindId), relays⟩
    else do
      let res ← world.thoughtOperation ent none [op.object]
      return ⟨res, [], relays⟩

/-- The argument is `Anonymous`, has a place for its position, and names what is there. -/
def TouchFits : Prop :=
  ∀ first ∈ op.args.head?, ∃ arg, first.asAnonymous = some arg ∧ ∀ id ∈ arg.id,
    IsPoint arg.pos ∧
      ((world.getEntity id).isSome = true ∨ world.scene.hasFlags ent entityAdmin = true ∨
        world.scene.hasFlags ent entityDestroyed = true)

/-- A constraint that is there is met. -/
def Meets (constraint : Option (Constraint ι)) (other ent : ι) (place : Option ι) : Prop :=
  ∀ isMatch ∈ constraint, (isMatch other ent place).1 = true

/-- The constraints of the mover, of the entity and of what it is in are met. -/
def Unopposed (ent other : ι) : Prop :=
  Meets (world.moverConstraint ent) other ent none ∧
    Meets (world.moveConstraint other) other ent none ∧
      ∀ above ∈ world.scene.parent other,
        Meets (world.containConstraint above) other ent (some above)

/-- Where the entity is to be. -/
def destination (other : ι) (arg : Fields δ) : Option ι :=
  arg.loc.elim (world.scene.parent other) world.getEntity

/-- Every check is passed that comes before the position is read. -/
structure Admitted (ent other : ι) (arg : Fields δ) (targetLoc : ι) : Prop where
  unopposed : world.Unopposed ent other
  reaches : world.scene.canReach ent (some other) none 0 = .ok true
  isTarget : world.destination other arg = some targetLoc
  enters : Meets (world.destinationConstraint targetLoc) other ent (some targetLoc)

/-- The entity may be moved to where the argument says. -/
structure MayMove (ent other : ι) (arg : Fields δ) : Prop where
  unopposed : world.Unopposed ent other
  reaches : world.scene.canReach ent (some other) none 0 = .ok true
  arrives : ∃ targetLoc, world.destination other arg = some targetLoc ∧
    Meets (world.destinationConstraint targetLoc) other ent (some targetLoc) ∧
      world.scene.canReach ent (some targetLoc) arg.pos (world.radius other) = .ok true

/-- The entity is out of reach, or its destination is missing or out of reach. -/
def OutOfReach (ent other : ι) (arg : Fields δ) : Prop :=
  world.scene.canReach ent (some other) none 0 = .ok false ∨
    world.destination other arg = none ∨
      ∃ targetLoc, world.destination other arg = some targetLoc ∧
        Meets (world.destinationConstraint targetLoc) other ent (some targetLoc) ∧
          world.scene.canReach ent (some targetLoc) arg.pos (world.radius other) = .ok false

/-- What is admitted has a place to go to, and is passed on by what it is in. -/
def MoveFits : Prop :=
  ∀ first ∈ op.args.head?, ∀ arg ∈ first.asRootEntity, ∀ otherId ∈ arg.id,
    otherId ≠ world.getId ent → ∀ other ∈ world.getEntity otherId, ∀ targetLoc,
      world.Admitted ent other arg targetLoc → IsPoint arg.pos ∧
        (world.scene.canReach ent (some targetLoc) arg.pos (world.radius other) = .ok true →
          (world.scene.parent other).isSome = true)

/-- The operation can be filtered. -/
def Fits : Prop :=
  op.header.target.isSome = true ∨
    ((op.header.classNo = .touch → world.TouchFits ent op) ∧
      (op.header.classNo = .move → world.MoveFits ent op))

theorem completes_mindTouchOperation :
    (∃ res, world.mindTouchOperation ent op = .ok res) ↔ world.TouchFits ent op := by
  unfold mindTouchOperation TouchFits
  cases op.args with
  | nil => simp
  | cons first rest =>
    simp only [head?_cons, mem_def, Option.some.injEq, forall_eq']
    cases cast : first.asAnonymous with
    | none => simp [deref, bind, Except.bind]
    | some arg =>
      simp only [deref, bind, Except.bind, Option.some.injEq, exists_eq_left']
      cases isId : arg.id with
      | none => simp [pure, Except.pure]
      | some id =>
        simp only [Option.some.injEq, forall_eq']
        by_cases isPoint : IsPoint arg.pos
        case neg => simp [fromAtlas, isPoint]
        simp only [fromAtlas, isPoint, if_true, true_and]
        cases found : world.getEntity id with
        | none =>
          have asked := world.scene.canReach_none ent arg.pos 0
          simp only [isSome_none, Bool.false_eq_true, false_or, ← asked]
          cases world.scene.canReach ent none arg.pos 0 with
          | error fault => simp
          | ok answer => cases answer <;> simp [pure, Except.pure]
        | some other =>
          obtain ⟨answer, isAnswer⟩ := world.scene.canReach_some ent other arg.pos 0
          rw [isAnswer]
          cases answer <;> simp [pure, Except.pure]

/-- Passed on to its container. -/
def forwardedMove (ent above : ι) (op : MindOp δ) (arg : Fields δ) : MindOp δ :=
  ({ op with args := [movedArgs arg] }.setFrom (world.getId ent)).setTo (world.getId above)

omit [DecidableEq ι] in
theorem violation_eq_none_iff (constraint : Option (Constraint ι)) (other ent : ι)
    (place : Option ι) :
    violation constraint other ent place = none ↔ Meets constraint other ent place := by
  unfold violation Meets
  cases constraint with
  | none => simp
  | some isMatch => simp

omit [DecidableEq ι] [Zero δ] [Add δ] in
theorem bind_violation_eq_none_iff (ent other : ι) :
    ((world.scene.parent other).bind fun above =>
        violation (world.containConstraint above) other ent (some above)) = none ↔
      ∀ above ∈ world.scene.parent other,
        Meets (world.containConstraint above) other ent (some above) := by
  simp [bind_eq_none_iff, violation_eq_none_iff]

omit [DecidableEq ι] in
theorem not_meets {constraint : Option (Constraint ι)} {other ent : ι} {place : Option ι}
    {message : String} (violated : violation constraint other ent place = some message) :
    ¬ Meets constraint other ent place := by
  rw [← violation_eq_none_iff, violated]
  exact some_ne_none message

theorem MayMove.not_outOfReach {world : MindWorld ι δ} {ent other : ι} {arg : Fields δ}
    (may : world.MayMove ent other arg) : ¬ world.OutOfReach ent other arg := by
  rcases may with ⟨-, reaches, targetLoc, isThere, -, arrives⟩
  rintro (tooFar | missing | ⟨place, isPlace, -, tooFar⟩)
  · simp [reaches] at tooFar
  · simp [isThere] at missing
  · obtain rfl := Option.some.inj (isThere.symm.trans isPlace)
    simp [arrives] at tooFar

theorem Admitted.mayMove {world : MindWorld ι δ} {ent other targetLoc : ι} {arg : Fields δ}
    (admitted : world.Admitted ent other arg targetLoc)
    (arrives : world.scene.canReach ent (some targetLoc) arg.pos (world.radius other) = .ok true) :
    world.MayMove ent other arg :=
  ⟨admitted.unopposed, admitted.reaches, targetLoc, admitted.isTarget, admitted.enters, arrives⟩

/-- What can come of a Move of another entity. -/
inductive MoveAnswer (ent : ι) (op : MindOp δ) (arg : Fields δ) (other : ι) :
    Except Fault (List (MindOp δ)) → Prop where
  | forwarded {above : ι} (may : world.MayMove ent other arg) (isPoint : IsPoint arg.pos)
      (isIn : world.scene.parent other = some above) :
      MoveAnswer ent op arg other (.ok [world.forwardedMove ent above op arg])
  | nowhere {targetLoc : ι} (admitted : world.Admitted ent other arg targetLoc)
      (arrives : world.scene.canReach ent (some targetLoc) arg.pos (world.radius other) = .ok true)
      (isIn : world.scene.parent other = none) :
      MoveAnswer ent op arg other (.error .missingParent)
  | misplaced {targetLoc : ι} (admitted : world.Admitted ent other arg targetLoc)
      (notPoint : ¬ IsPoint arg.pos) :
      MoveAnswer ent op arg other (.error .badPoint)
  | refused {text : String} (notAdmitted : ∀ targetLoc, ¬ world.Admitted ent other arg targetLoc)
      (notOut : ¬ (world.Unopposed ent other ∧ world.OutOfReach ent other arg)) :
      MoveAnswer ent op arg other (.ok [op.clientError text (world.getId ent)])
  | outOfReach {text : String} (unopposed : world.Unopposed ent other)
      (out : world.OutOfReach ent other arg)
      (isPoint : ∀ targetLoc, world.Admitted ent other arg targetLoc → IsPoint arg.pos) :
      MoveAnswer ent op arg other (.ok [op.clientError text (op.header.sender.getD "")])

section

variable {world} {op : MindOp δ} {arg : Fields δ}

theorem MoveAnswer.refused_of_opposed {ent other : ι} {text : String}
    (opposed : ¬ world.Unopposed ent other) :
    world.MoveAnswer ent op arg other (.ok [op.clientError text (world.getId ent)]) :=
  .refused (fun _ admitted => opposed admitted.unopposed) fun refused => opposed refused.1

theorem MoveAnswer.refused_of_kept_out {ent other targetLoc : ι} {message text : String}
    (isReached : world.scene.canReach ent (some other) none 0 = .ok true)
    (isTarget : world.destination other arg = some targetLoc)
    (entered : violation (world.destinationConstraint targetLoc) other ent (some targetLoc) =
      some message) :
    world.MoveAnswer ent op arg other (.ok [op.clientError text (world.getId ent)]) := by
  apply MoveAnswer.refused
  · rintro place ⟨-, -, isThere, met⟩
    obtain rfl := Option.some.inj (isTarget.symm.trans isThere)
    exact not_meets entered met
  · rintro ⟨-, tooFar | missing | ⟨place, isThere, met, -⟩⟩
    · simp [isReached] at tooFar
    · simp [isTarget] at missing
    · obtain rfl := Option.some.inj (isTarget.symm.trans isThere)
      exact not_meets entered met

end

/-- `moveOtherEntity`, when the entity is there. -/
theorem moveOtherEntity_answer {otherId : String}
    {other : ι} (found : world.getEntity otherId = some other) :
    world.MoveAnswer ent op arg other (world.moveOtherEntity ent op arg otherId) := by
  unfold moveOtherEntity
  simp only [found]
  -- The three constraints that are asked first.
  cases mover : violation (world.moverConstraint ent) other ent none with
  | some message => exact .refused_of_opposed fun unopposed => not_meets mover unopposed.1
  | none =>
  cases move : violation (world.moveConstraint other) other ent none with
  | some message => exact .refused_of_opposed fun unopposed => not_meets move unopposed.2.1
  | none =>
  cases contain : (world.scene.parent other).bind fun above =>
      violation (world.containConstraint above) other ent (some above) with
  | some message =>
    apply MoveAnswer.refused_of_opposed
    intro unopposed
    have met := (world.bind_violation_eq_none_iff ent other).mpr unopposed.2.2
    simp [met] at contain
  | none =>
  have unopposed : world.Unopposed ent other :=
    ⟨(violation_eq_none_iff ..).mp mover, (violation_eq_none_iff ..).mp move,
      (world.bind_violation_eq_none_iff ent other).mp contain⟩
  rcases world.scene.canReach_some ent other none 0 with ⟨reached, isReached⟩
  simp only [isReached, bind, Except.bind]
  cases reached with
  | false =>
    refine .outOfReach unopposed (.inl isReached) fun place admitted => ?_
    simpa [isReached] using admitted.reaches
  | true =>
  simp only [Bool.true_eq_false, if_false]
  -- The destination is there, lets the entity in, and is within reach.
  cases isTarget : arg.loc.elim (world.scene.parent other) world.getEntity with
  | none =>
    refine .outOfReach unopposed (.inr (.inl isTarget)) fun place admitted => ?_
    simpa [destination, isTarget] using admitted.isTarget
  | some targetLoc =>
  simp only
  cases entered : violation (world.destinationConstraint targetLoc) other ent (some targetLoc) with
  | some message => exact .refused_of_kept_out isReached isTarget entered
  | none =>
  have admitted : world.Admitted ent other arg targetLoc :=
    ⟨unopposed, isReached, isTarget, (violation_eq_none_iff ..).mp entered⟩
  simp only
  by_cases isPoint : IsPoint arg.pos
  case neg =>
    rw [fromAtlas, if_neg isPoint]
    exact .misplaced admitted isPoint
  rw [fromAtlas, if_pos isPoint]
  simp only
  rcases world.scene.canReach_some ent targetLoc arg.pos (world.radius other) with
    ⟨arrived, isArrived⟩
  simp only [isArrived]
  cases arrived with
  | false =>
    have out : world.OutOfReach ent other arg :=
      .inr (.inr ⟨targetLoc, isTarget, admitted.enters, isArrived⟩)
    exact .outOfReach unopposed out fun _ _ => isPoint
  | true =>
  cases isIn : world.scene.parent other with
  | some above => exact .forwarded (admitted.mayMove isArrived) isPoint isIn
  | none => exact .nowhere admitted isArrived isIn

theorem completes_moveOtherEntity (otherId : String) :
    (∃ res, world.moveOtherEntity ent op arg otherId = .ok res) ↔
      ∀ other ∈ world.getEntity otherId, ∀ targetLoc,
        world.Admitted ent other arg targetLoc → IsPoint arg.pos ∧
          (world.scene.canReach ent (some targetLoc) arg.pos (world.radius other) = .ok true →
            (world.scene.parent other).isSome = true) := by
  cases found : world.getEntity otherId with
  | none => simp [moveOtherEntity, found]
  | some other =>
    simp only [mem_def, Option.some.injEq, forall_eq']
    have answer := world.moveOtherEntity_answer ent op arg found
    generalize world.moveOtherEntity ent op arg otherId = outcome at answer ⊢
    cases answer with
    | forwarded _ isPoint isIn => simp [isPoint, isIn]
    | nowhere admitted arrives isIn =>
      simp only [reduceCtorEq, exists_false, false_iff]
      intro fits
      simpa [isIn] using (fits _ admitted).2 arrives
    | misplaced admitted notPoint =>
      simp only [reduceCtorEq, exists_false, false_iff]
      intro fits
      exact notPoint (fits _ admitted).1
    | refused notAdmitted _ => simp [notAdmitted]
    | outOfReach _ out isPoint =>
      simp only [exists_eq', true_iff, Except.ok.injEq]
      intro targetLoc admitted
      exact ⟨isPoint targetLoc admitted, fun arrives =>
        absurd out (admitted.mayMove arrives).not_outOfReach⟩

theorem completes_mindMoveOperation :
    (∃ res, world.mindMoveOperation ent op = .ok res) ↔ world.MoveFits ent op := by
  unfold mindMoveOperation MoveFits
  cases op.args with
  | nil => simp
  | cons first rest =>
    simp only [head?_cons, mem_def, Option.some.injEq, forall_eq']
    cases first.asRootEntity with
    | none => simp
    | some arg =>
      simp only [Option.some.injEq, forall_eq']
      cases arg.id with
      | none => simp
      | some otherId =>
        simp only [Option.some.injEq, forall_eq']
        by_cases same : otherId = world.getId ent
        · simp [same]
        · simp only [ne_eq, same, not_false_eq_true, if_true, true_implies]
          exact world.completes_moveOtherEntity ent op arg otherId

theorem completes_mind2body : (∃ res, world.mind2body ent op = .ok res) ↔ world.Fits ent op := by
  unfold mind2body Fits
  by_cases directed : op.header.target.isSome = true
  · simp [directed]
  · simp only [directed, Bool.false_eq_true, if_false, false_or]
    split
    case h_5 isMove => simp [isMove, completes_mindMoveOperation]
    case h_8 isTouch => simp [isTouch, completes_mindTouchOperation]
    all_goals simp_all

theorem completes_thoughtOperation
    (args : List (AtlasObject δ)) :
    (∃ res, world.thoughtOperation ent serialno args = .ok res) ↔
      ∀ arg ∈ args, ∀ op ∈ arg.asOperation, world.Fits ent op := by
  induction args with
  | nil => simp [thoughtOperation]
  | cons arg rest ih =>
    rw [forall_mem_cons, ← ih, thoughtOperation]
    cases arg.asOperation with
    | none => simp
    | some innerOp =>
      simp only [mem_def, Option.some.injEq, forall_eq', ← completes_mind2body]
      cases world.mind2body ent innerOp with
      | error fault => simp [bind, Except.bind]
      | ok mres =>
        cases world.thoughtOperation ent serialno rest with
        | error fault => simp [bind, Except.bind]
        | ok later => simp [bind, Except.bind, pure, Except.pure]

/-- An operation of a mind is filtered without a fault exactly if it answers a relay, or fits what
the filter takes for granted. -/
theorem completes_iff_fits :
    (∀ (mindId : String) (relays : List (Int × RelayEntry)) (op : MindOp δ),
      (∃ result, world.externalOperation ent mindId relays op = .ok result) ↔
        op.header.refno.isSome = true ∨ world.Fits ent op) ∧
    ∀ (serialno : Option Int) (args : List (AtlasObject δ)),
      (∃ res, world.thoughtOperation ent serialno args = .ok res) ↔
        ∀ arg ∈ args, ∀ op ∈ arg.asOperation, world.Fits ent op := by
  constructor
  · intro mindId relays op
    unfold externalOperation
    cases op.header.refno with
    | some refno => simp
    | none =>
      simp only [isSome_none, Bool.false_eq_true, false_or]
      by_cases isGet : op.header.classNo = .get
      · simp [isGet, Fits]
      · have wrapped := world.completes_thoughtOperation ent none [op.object]
        simp only [mem_singleton, forall_eq, MindOp.object, AtlasObject.asOperation,
          mem_def, Option.some.injEq, forall_eq'] at wrapped
        rw [← wrapped]
        simp only [isGet, if_false, MindOp.object]
        cases world.thoughtOperation ent none [.operation op.header op.fields op.args] with
        | error fault => simp [bind, Except.bind]
        | ok res => simp [bind, Except.bind, pure, Except.pure]
  · exact world.completes_thoughtOperation ent

/-- A player and an administrator. -/
def smallWorld : MindWorld Nat Int :=
  { scene :=
      { parent := fun entity => if entity = 0 then none else some 0
        flags := fun entity => if entity = 2 then ⟨entityAdmin⟩ else .empty
        reach := fun _ => some 1
        domain := fun _ => none
        depth := fun entity => if entity = 0 then 0 else 1
        depth_parent := by
          intro entity above isParent
          split at isParent
          · cases isParent
          next notRoot =>
            obtain rfl := Option.some.inj isParent
            simp [notRoot] }
    getId := toString
    getEntity := fun id =>
      if id = "0" then some 0 else if id = "1" then some 1 else if id = "2" then some 2 else none
    moverConstraint := fun _ => none
    moveConstraint := fun _ => none
    containConstraint := fun _ => none
    destinationConstraint := fun _ => none
    radius := fun _ => 0
    propel := fun _ => none
    getClass := fun _ _ => none }

/-- An entity, and a place for it. -/
def naming (id : String) (loc : Option String) : AtlasObject Int :=
  .entity true { objtype := "obj", id := some id, loc := loc, pos := none, attributes := [] }

/-- Touches of nothing and of a thing, and a Move of the world. -/
theorem mind_operations_fault :
    smallWorld.externalOperation 1 "5" []
        (.new .touch "touch" [(MindOp.new .talk "talk" []).object]) = .error .failedCast ∧
      smallWorld.externalOperation 1 "5" [] (.new .touch "touch" [naming "99" none]) =
        .error .missingEntity ∧
      smallWorld.externalOperation 2 "6" [] (.new .move "move" [naming "0" (some "1")]) =
        .error .missingParent :=
  ⟨rfl, rfl, rfl⟩

end MindWorld

end Cyphesis.Simulation
