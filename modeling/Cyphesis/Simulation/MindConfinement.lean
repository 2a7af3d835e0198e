import Cyphesis.Simulation.MindMoves

/-!
# What a mind can cause

The operations that enter the queue of the world because of one that a client sends as a mind.
-/

namespace Cyphesis.Simulation

open Cyphesis.Atlas List
open Cyphesis.Rules

/-- What decides besides the filter. -/
structure QueueWorld (ι δ : Type) extends MindWorld ι δ where
  /-- What `collectObservers` collects. -/
  observers : ι → List String
  /-- Sound, Appearance and Disappearance. -/
  otherPerception : Nat → Bool
  /-- Waiting for an answer of the mind. -/
  relays : List (Int × MindWorld.RelayEntry)

namespace QueueWorld

variable {ι δ : Type} [DecidableEq ι] [Zero δ] [Add δ] (world : QueueWorld ι δ)

def shouldBroadcastPerception : MindOpClass → Bool
  | .sight => true
  | .other number => world.otherPerception number
  | _ => false

variable (ent : ι)

/-- What is added to the queue. -/
def message (op : MindOp δ) : List (MindOp δ) :=
  match op.header.target with
  | some _ => [op.setFrom (world.getId ent)]
  | none =>
    if world.shouldBroadcastPerception op.header.classNo then
      (world.observers ent).map fun observer =>
        (op.setTo observer).setFrom (world.getId ent)
    else []

/-- An answer to the sender that is about the operation. -/
def refer (op resOp : MindOp δ) : MindOp δ :=
  if op.header.sender.getD "" = resOp.header.target.getD "" ∧
      op.header.serialno.isSome = true ∧ resOp.header.refno.isNone = true then
    { resOp with header := { resOp.header with refno := op.header.serialno } }
  else resOp

/-- `ExternalMind::externalOperation`. -/
def sendWorld (mindId : String) (op : MindOp δ) : Except Fault (List (MindOp δ)) := do
  let result ← world.externalOperation ent mindId world.relays op
  return result.toWorld.flatMap (world.message ent)

/-- `WorldRouter::deliverTo`, for a Thought. -/
def deliverThought (thought : MindOp δ) : Except Fault (List (MindOp δ)) := do
  let res ← world.thoughtOperation ent thought.header.serialno thought.args
  return res.flatMap fun resOp => world.message ent (refer thought resOp)

end QueueWorld

/-- Queued for the mind of `id`. -/
inductive Consequence {ι δ : Type} [DecidableEq ι] [Zero δ] [Add δ] (ent : ι) (id : String)
    (op : MindOp δ) : QueueWorld ι δ → MindOp δ → Prop
  | sent {world : QueueWorld ι δ} {mindId : String} {entered : List (MindOp δ)}
      {queued : MindOp δ} (isId : world.getId ent = id)
      (sends : world.sendWorld ent mindId op = .ok entered) (isQueued : queued ∈ entered) :
      Consequence ent id op world queued
  | thought {before world : QueueWorld ι δ} {thought : MindOp δ} {entered : List (MindOp δ)}
      {queued : MindOp δ} (earlier : Consequence ent id op before thought)
      (isThought : thought.header.classNo = .thought) (isOwn : thought.header.target = some id)
      (isId : world.getId ent = id) (delivers : world.deliverThought ent thought = .ok entered)
      (isQueued : queued ∈ entered) :
      Consequence ent id op world queued

namespace MindWorld

variable {ι δ : Type} [DecidableEq ι] [Zero δ] [Add δ] (world : MindWorld ι δ)

/-- A Use goes to the tool it names. -/
def UsesTool (op : MindOp δ) : Prop :=
  op.header.classNo = .use ∧ ∃ action tool, op.args = [MindOp.object action] ∧
    action.args.head?.bind AtlasObject.asRootEntity = some tool ∧ op.header.target = tool.id

variable (ent : ι)

/-- A Touch goes to what is within reach. -/
def TouchesReachable (op : MindOp δ) : Prop :=
  op.header.classNo = .touch ∧ ∃ arg id,
    op.args.head?.bind AtlasObject.asAnonymous = some arg ∧ arg.id = some id ∧
      op.header.target = some id ∧
        world.scene.canReach ent (world.getEntity id) arg.pos 0 = .ok true

/-- A Move goes to what the entity is in. -/
def MovesChecked (op : MindOp δ) : Prop :=
  op.header.classNo = .move ∧ ∃ other arg above, world.MayMove ent other arg ∧
    world.scene.parent other = some above ∧ op.header.target = some (world.getId above) ∧
      op.args = [movedArgs arg]

/-- The operation is for the mind's own entity, or of a kind that may go to others. -/
def Directed (op : MindOp δ) : Prop :=
  op.header.target = some (world.getId ent) ∨ op.header.classNo = .look ∨ UsesTool op ∨
    world.TouchesReachable ent op ∨ world.MovesChecked ent op

/-- A Set of the entity that only steers it. -/
def SteersOnly (op : MindOp δ) : Prop :=
  op.header.classNo = .set → op.header.target = some (world.getId ent) ∧
    ∃ cleaned, op.args = [MindOp.anonymous (some (world.getId ent)) cleaned] ∧
      ∀ entry ∈ cleaned, entry.1 ∈ ["_propel", "_direction", "_destination"]

/-- A Sight of a Touch of something within reach. -/
def ShowsTouch (op : MindOp δ) : Prop :=
  op.header.classNo = .sight ∧ ∃ touch, op.args = [MindOp.object touch] ∧
    world.TouchesReachable ent touch

/-- Unaddressed Uses, Sights and errors. -/
structure Filtered (ent : ι) (op : MindOp δ) : Prop where
  steers : world.SteersOnly ent op
  directed : world.Directed ent op ∨
    op.header.target = none ∧ (op.header.classNo = .use ∨ world.ShowsTouch ent op) ∨
      op.header.classNo = .error

section

variable {world} {ent}

theorem Filtered.congr {op made : MindOp δ}
    (filtered : world.Filtered ent op) (sameClass : made.header.classNo = op.header.classNo)
    (sameTarget : made.header.target = op.header.target) (sameArgs : made.args = op.args) :
    world.Filtered ent made := by
  rcases filtered with ⟨steers, directed⟩
  constructor
  · unfold SteersOnly
    rw [sameClass, sameTarget, sameArgs]
    exact steers
  · unfold Directed UsesTool TouchesReachable MovesChecked ShowsTouch
    rw [sameClass, sameTarget, sameArgs]
    exact directed

theorem Filtered.of_own {op : MindOp δ}
    (notSet : op.header.classNo ≠ .set) (isOwn : op.header.target = some (world.getId ent)) :
    world.Filtered ent op :=
  ⟨fun isSet => absurd isSet notSet, .inl (.inl isOwn)⟩

end

theorem filtered_clientError (op : MindOp δ) (text recipient : String) :
    world.Filtered ent (op.clientError text recipient) := by
  have isError := op.clientError_classNo text recipient
  constructor
  · intro isSet
    rw [isError] at isSet
    cases isSet
  · exact .inr (.inr isError)

theorem filtered_passToEntity {ent : ι} {op : MindOp δ} (notSet : op.header.classNo ≠ .set) :
    ∀ made ∈ world.passToEntity ent op, world.Filtered ent made := by
  intro made isMade
  obtain rfl := List.mem_singleton.mp isMade
  exact .of_own notSet rfl

theorem filtered_mindUseOperation (op : MindOp δ) :
    ∀ made ∈ world.mindUseOperation ent op, world.Filtered ent made := by
  intro made isMade
  unfold mindUseOperation at isMade
  cases isArgs : op.args with
  | nil => simp [isArgs] at isMade
  | cons firstArg rest =>
    simp only [isArgs] at isMade
    split at isMade
    · -- The argument has to be an action on a tool.
      cases isInner : firstArg.asOperation with
      | none => simp [isInner] at isMade
      | some innerOp =>
      cases isInnerArgs : innerOp.args with
      | nil => simp [isInner, isInnerArgs] at isMade
      | cons innerArg innerRest =>
      cases isTool : innerArg.asRootEntity with
      | none => simp [isInner, isInnerArgs, isTool] at isMade
      | some toolEnt =>
      cases isId : toolEnt.id with
      | none => simp [isInner, isInnerArgs, isTool, isId] at isMade
      | some id =>
        simp only [isInner, isInnerArgs, isTool, isId, mem_singleton] at isMade
        rw [isMade]
        refine ⟨by rintro ⟨⟩, .inl (.inr (.inr (.inl ⟨rfl, innerOp, toolEnt, rfl, ?_, ?_⟩)))⟩
        · simp [isInnerArgs, isTool]
        · exact isId.symm
    · split at isMade
      · obtain rfl := List.mem_singleton.mp isMade
        exact .of_own (by rintro ⟨⟩) rfl
      · obtain rfl := List.mem_singleton.mp isMade
        exact ⟨by rintro ⟨⟩, .inr (.inl ⟨rfl, .inl rfl⟩)⟩

variable {op : MindOp δ}

section

variable (isMove : op.header.classNo = .move) {mres : List (MindOp δ)}

include isMove

theorem filtered_moveOtherEntity
    (arg : Fields δ) (otherId : String)
    (isMres : world.moveOtherEntity ent op arg otherId = .ok mres) :
    ∀ made ∈ mres, world.Filtered ent made := by
  cases found : world.getEntity otherId with
  | none =>
    simp only [moveOtherEntity, found, Except.ok.injEq] at isMres
    subst isMres
    intro made isMade
    obtain rfl := List.mem_singleton.mp isMade
    exact .of_own (by rintro ⟨⟩) rfl
  | some other =>
    have answer := world.moveOtherEntity_answer ent op arg found
    rw [isMres] at answer
    cases answer with
    | @forwarded above may _ isIn =>
      intro made isMade
      obtain rfl := List.mem_singleton.mp isMade
      have notSet : ¬ (world.forwardedMove ent above op arg).header.classNo = .set := by
        change ¬ op.header.classNo = .set
        simp [isMove]
      exact ⟨fun isSet => absurd isSet notSet,
        .inl (.inr (.inr (.inr (.inr ⟨isMove, other, arg, above, may, isIn, rfl, rfl⟩))))⟩
    | @refused text =>
      intro made isMade
      rw [List.mem_singleton.mp isMade]
      exact world.filtered_clientError ent op text _
    | @outOfReach text =>
      intro made isMade
      rw [List.mem_singleton.mp isMade]
      exact world.filtered_clientError ent op text _

theorem filtered_mindMoveOperation
    (isMres : world.mindMoveOperation ent op = .ok mres) :
    ∀ made ∈ mres, world.Filtered ent made := by
  have nothing : ∀ {made : MindOp δ}, (.ok [] : Except Fault (List (MindOp δ))) = .ok mres →
      made ∈ mres → world.Filtered ent made := by
    intro made isEmpty isMade
    obtain rfl := Except.ok.inj isEmpty
    simp at isMade
  unfold mindMoveOperation at isMres
  intro made isMade
  split at isMres
  · exact nothing isMres isMade
  · split at isMres
    · exact nothing isMres isMade
    next arg _ =>
      split at isMres
      · exact nothing isMres isMade
      next otherId _ =>
        split at isMres
        · exact world.filtered_moveOtherEntity ent isMove arg otherId isMres made isMade
        · obtain rfl := Except.ok.inj isMres
          rw [List.mem_singleton.mp isMade]
          exact world.filtered_clientError ent op _ _

end

theorem filtered_mindSetOperation (op : MindOp δ) :
    ∀ made ∈ world.mindSetOperation ent op, world.Filtered ent made := by
  intro made isMade
  unfold mindSetOperation at isMade
  cases isArgs : op.args with
  | nil => simp [isArgs] at isMade
  | cons arg rest =>
    simp only [isArgs, mem_singleton] at isMade
    rw [isMade]
    refine ⟨fun _ => ⟨rfl, _, rfl, ?_⟩, .inl (.inl rfl)⟩
    intro entry isEntry
    rcases List.mem_filterMap.mp isEntry with ⟨asked, -, kept⟩
    split at kept
    · next isPropel =>
        rcases Option.map_eq_some_iff.mp kept with ⟨value, -, rfl⟩
        simp [isPropel]
    · split at kept
      · next isName =>
          obtain rfl := Option.some.inj kept
          rcases isName with isName | isName
          · simp [isName]
          · simp [isName]
      · cases kept

theorem filtered_mindLookOperation
    (isLook : op.header.classNo = .look) :
    ∀ made ∈ world.mindLookOperation ent op, world.Filtered ent made := by
  have looks : ∀ id, world.Filtered ent (op.setTo id) := by
    intro id
    refine ⟨fun isSet => ?_, .inl (.inr (.inl isLook))⟩
    change op.header.classNo = .set at isSet
    simp [isLook] at isSet
  intro made isMade
  unfold mindLookOperation at isMade
  split at isMade
  · split at isMade
    · rw [List.mem_singleton.mp isMade]
      exact looks _
    · simp at isMade
  · split at isMade
    · simp at isMade
    · rw [List.mem_singleton.mp isMade]
      exact looks _

section

variable {mres : List (MindOp δ)}

theorem filtered_mindTouchOperation
    (isTouch : op.header.classNo = .touch)
    (isMres : world.mindTouchOperation ent op = .ok mres) :
    ∀ made ∈ mres, world.Filtered ent made := by
  unfold mindTouchOperation at isMres
  cases isArgs : op.args with
  | nil =>
    simp only [isArgs] at isMres
    obtain rfl := Except.ok.inj isMres
    simp
  | cons first rest =>
  cases isArg : first.asAnonymous with
  | none => simp [isArgs, isArg, deref, bind, Except.bind] at isMres
  | some arg =>
  cases isId : arg.id with
  | none =>
    simp only [isArgs, isArg, isId, deref, bind, Except.bind] at isMres
    obtain rfl := Except.ok.inj isMres
    simp
  | some id =>
  by_cases isPoint : IsPoint arg.pos
  case neg =>
    simp [isArgs, isArg, isId, fromAtlas, isPoint, deref, bind, Except.bind] at isMres
  cases reaches : world.scene.canReach ent (world.getEntity id) arg.pos 0 with
  | error fault =>
    simp [isArgs, isArg, isId, fromAtlas, isPoint, reaches, deref, bind, Except.bind] at isMres
  | ok reached =>
  simp only [isArgs, isArg, isId, fromAtlas, isPoint, if_true, reaches, deref, bind,
    Except.bind] at isMres
  have touches : reached = true → world.TouchesReachable ent (op.setTo id) := by
    rintro rfl
    refine ⟨isTouch, arg, id, ?_, isId, rfl, reaches⟩
    change op.args.head?.bind _ = _
    simp [isArgs, isArg]
  cases reached with
  | true =>
    obtain rfl := Except.ok.inj isMres
    intro made isMade
    rcases List.mem_pair.mp isMade with rfl | rfl
    · refine ⟨fun isSet => ?_, .inl (.inr (.inr (.inr (.inl (touches rfl)))))⟩
      change op.header.classNo = .set at isSet
      simp [isTouch] at isSet
    · exact ⟨by rintro ⟨⟩, .inr (.inl ⟨rfl, .inr ⟨rfl, _, rfl, touches rfl⟩⟩)⟩
  | false =>
    obtain rfl := Except.ok.inj isMres
    intro made isMade
    rw [List.mem_singleton.mp isMade]
    exact world.filtered_clientError ent op _ _

theorem filtered_mind2body (op : MindOp δ)
    (isMres : world.mind2body ent op = .ok mres) :
    ∀ made ∈ mres, world.Filtered ent made := by
  unfold mind2body at isMres
  split at isMres
  · obtain rfl := Except.ok.inj isMres
    simp
  · split at isMres
    case h_4 isLook =>
      obtain rfl := Except.ok.inj isMres
      exact world.filtered_mindLookOperation ent isLook
    case h_5 isMove => exact world.filtered_mindMoveOperation ent isMove isMres
    case h_6 isSet =>
      obtain rfl := Except.ok.inj isMres
      exact world.filtered_mindSetOperation ent op
    case h_8 isTouch => exact world.filtered_mindTouchOperation ent isTouch isMres
    case h_9 isUse =>
      obtain rfl := Except.ok.inj isMres
      exact world.filtered_mindUseOperation ent op
    -- The others are passed to the entity.
    all_goals
      obtain rfl := Except.ok.inj isMres
      exact world.filtered_passToEntity (by simp_all)

theorem filtered_markFirst {ent : ι} (serialno : Option Int)
    (filtered : ∀ made ∈ mres, world.Filtered ent made) :
    ∀ made ∈ markFirst serialno mres, world.Filtered ent made := by
  cases mres with
  | nil => exact filtered
  | cons first rest =>
    intro made isMade
    rcases List.mem_cons.mp isMade with rfl | inRest
    · exact (filtered first (by simp)).congr rfl rfl rfl
    · exact filtered made (mem_cons_of_mem _ inRest)

end

theorem filtered_thoughtOperation (serialno : Option Int)
    (args : List (AtlasObject δ)) {res : List (MindOp δ)}
    (isRes : world.thoughtOperation ent serialno args = .ok res) :
    ∀ resOp ∈ res, world.Filtered ent resOp := by
  induction args generalizing res with
  | nil =>
    obtain rfl := Except.ok.inj isRes
    simp
  | cons arg rest ih =>
    rw [thoughtOperation] at isRes
    cases isInner : arg.asOperation with
    | none =>
      simp only [isInner] at isRes
      exact ih isRes
    | some innerOp =>
    cases isMres : world.mind2body ent innerOp with
    | error fault => simp [isInner, isMres, bind, Except.bind] at isRes
    | ok mres =>
    cases isLater : world.thoughtOperation ent serialno rest with
    | error fault => simp [isInner, isMres, isLater, bind, Except.bind] at isRes
    | ok later =>
      simp only [isInner, isMres, isLater, bind, Except.bind, pure, Except.pure,
        Except.ok.injEq] at isRes
      subst isRes
      intro resOp isResOp
      rcases List.mem_append.mp isResOp with inFirst | inLater
      · rcases List.mem_map.mp inFirst with ⟨made, isMade, rfl⟩
        have filtered := world.filtered_mind2body ent innerOp isMres
        exact (world.filtered_markFirst serialno filtered made isMade).congr rfl rfl rfl
      · exact ih isLater resOp inLater

end MindWorld

namespace QueueWorld

variable {ι δ : Type} [DecidableEq ι] [Zero δ] [Add δ] (world : QueueWorld ι δ)

/-- A Sight of a Touch within reach. -/
def Shown (ent : ι) (queued : MindOp δ) : Prop :=
  world.ShowsTouch ent queued ∧
    ∃ observer ∈ world.observers ent, queued.header.target = some observer

/-- Answer to a relayed operation. -/
def AnswersRelay (queued : MindOp δ) : Prop :=
  queued.header.classNo = .relay ∧ ∃ entry ∈ world.relays,
    queued.header.target = entry.2.sender ∧ queued.header.refno = entry.2.serialno

/-- What the entity may have caused. -/
structure Confined (ent : ι) (queued : MindOp δ) : Prop where
  sender : queued.header.sender = some (world.getId ent)
  steers : world.SteersOnly ent queued
  directed : world.Directed ent queued ∨ world.Shown ent queued ∨ world.AnswersRelay queued ∨
    queued.header.classNo = .error

variable {world}

omit [DecidableEq ι] [Zero δ] [Add δ] in
theorem shouldBroadcastPerception_cases {classNo : MindOpClass}
    (isPerception : world.shouldBroadcastPerception classNo = true) :
    classNo = .sight ∨ ∃ number, classNo = .other number := by
  cases classNo with
  | sight => exact .inl rfl
  | other number => exact .inr ⟨number, rfl⟩
  | _ => cases isPerception

variable {ent : ι} {op : MindOp δ}

theorem showsTouch_of_perception (filtered : world.Filtered ent op)
    (isTarget : op.header.target = none)
    (isPerception : world.shouldBroadcastPerception op.header.classNo = true) :
    world.ShowsTouch ent op := by
  have isOther := shouldBroadcastPerception_cases isPerception
  rcases filtered.directed with (isOwn | isLook | uses | touches | moves) | ⟨-, isUse | shows⟩ |
    isError
  · simp [isTarget] at isOwn
  · simp [isLook] at isOther
  · simp [uses.1] at isOther
  · simp [touches.1] at isOther
  · simp [moves.1] at isOther
  · simp [isUse] at isOther
  · exact shows
  · simp [isError] at isOther

theorem confined_message (filtered : world.Filtered ent op) :
    ∀ queued ∈ world.message ent op, world.Confined ent queued := by
  intro queued isQueued
  unfold message at isQueued
  cases isTarget : op.header.target with
  | some id =>
    simp only [isTarget] at isQueued
    obtain rfl := List.mem_singleton.mp isQueued
    have kept : world.Filtered ent (op.setFrom (world.getId ent)) := filtered.congr rfl rfl rfl
    refine ⟨rfl, kept.steers, ?_⟩
    rcases kept.directed with directed | ⟨notAddressed, -⟩ | isError
    · exact .inl directed
    · change op.header.target = none at notAddressed
      simp [isTarget] at notAddressed
    · exact .inr (.inr (.inr isError))
  | none =>
    simp only [isTarget] at isQueued
    split at isQueued
    · next isPerception =>
        rcases List.mem_map.mp isQueued with ⟨observer, isObserver, rfl⟩
        have shows := showsTouch_of_perception filtered isTarget isPerception
        refine ⟨rfl, fun isSet => ?_, .inr (.inl ⟨shows, observer, isObserver, rfl⟩)⟩
        change op.header.classNo = .set at isSet
        simp [shows.1] at isSet
    · simp at isQueued

theorem filtered_refer (op : MindOp δ) {resOp : MindOp δ}
    (filtered : world.Filtered ent resOp) : world.Filtered ent (refer op resOp) := by
  unfold refer
  split
  · exact filtered.congr rfl rfl rfl
  · exact filtered

theorem confined_externalRelayedOperation (ent : ι) (refno : Int) (op : MindOp δ) :
    ∀ answer ∈ (MindWorld.externalRelayedOperation world.relays refno op).toWorld,
      ∀ queued ∈ world.message ent answer, world.Confined ent queued := by
  intro answer isAnswer queued isQueued
  unfold MindWorld.externalRelayedOperation at isAnswer
  split at isAnswer
  · simp at isAnswer
  next number relay found =>
    split at isAnswer
    · next sender serialno id isSender isSerialno isId =>
        obtain rfl := List.mem_singleton.mp isAnswer
        obtain rfl := List.mem_singleton.mp isQueued
        refine ⟨rfl, by rintro ⟨⟩, .inr (.inr (.inl ⟨rfl, (number, relay), ?_, ?_, ?_⟩))⟩
        · exact mem_of_find?_eq_some found
        · exact isSender.symm
        · exact isSerialno.symm
    · simp at isAnswer

variable {entered : List (MindOp δ)}

theorem confined_sendWorld {mindId : String} {op : MindOp δ}
    (sends : world.sendWorld ent mindId op = .ok entered) :
    ∀ queued ∈ entered, world.Confined ent queued := by
  unfold sendWorld MindWorld.externalOperation at sends
  cases isRefno : op.header.refno with
  | some refno =>
    simp only [isRefno, bind, Except.bind, pure, Except.pure, Except.ok.injEq] at sends
    subst sends
    intro queued isQueued
    rcases List.mem_flatMap.mp isQueued with ⟨answer, isAnswer, isQueued⟩
    exact confined_externalRelayedOperation ent refno op answer isAnswer queued isQueued
  | none =>
    simp only [isRefno] at sends
    split at sends
    · -- The client is answered without the world.
      simp only [bind, Except.bind, pure, Except.pure, flatMap_nil, Except.ok.injEq] at sends
      subst sends
      simp
    · cases isRes : world.thoughtOperation ent none [op.object] with
      | error fault => simp [isRes, bind, Except.bind] at sends
      | ok res =>
        simp only [isRes, bind, Except.bind, pure, Except.pure, Except.ok.injEq] at sends
        subst sends
        intro queued isQueued
        rcases List.mem_flatMap.mp isQueued with ⟨resOp, isResOp, isQueued⟩
        have filtered := world.filtered_thoughtOperation ent _ _ isRes resOp isResOp
        exact confined_message filtered queued isQueued

theorem confined_deliverThought {thought : MindOp δ}
    (delivers : world.deliverThought ent thought = .ok entered) :
    ∀ queued ∈ entered, world.Confined ent queued := by
  unfold deliverThought at delivers
  cases isRes : world.thoughtOperation ent thought.header.serialno thought.args with
  | error fault => simp [isRes, bind, Except.bind] at delivers
  | ok res =>
    simp only [isRes, bind, Except.bind, pure, Except.pure, Except.ok.injEq] at delivers
    subst delivers
    intro queued isQueued
    rcases List.mem_flatMap.mp isQueued with ⟨resOp, isResOp, isQueued⟩
    have filtered := world.filtered_thoughtOperation ent _ _ isRes resOp isResOp
    exact confined_message (filtered_refer thought filtered) queued isQueued

/-- Whatever comes of an operation of a mind is about its own entity, or is sent to one that may be
reached or moved. -/
theorem consequence_confined {id : String} {op queued : MindOp δ}
    (consequence : Consequence ent id op world queued) :
    world.getId ent = id ∧ world.Confined ent queued := by
  cases consequence with
  | sent isId sends isQueued => exact ⟨isId, confined_sendWorld sends queued isQueued⟩
  | thought _ _ _ isId delivers isQueued =>
    exact ⟨isId, confined_deliverThought delivers queued isQueued⟩

/-- A small world of two that see each other. -/
def plaza : QueueWorld Nat Int where
  toMindWorld := MindWorld.smallWorld
  observers _ := ["1", "2"]
  otherPerception _ := false
  relays := []

/-- The player touches the administrator. -/
def touchOther : MindOp Int :=
  .new .touch "touch" [MindWorld.naming "2" none]

/-- The Touch, as it enters the queue. -/
def touched : MindOp Int :=
  (touchOther.setTo "2").setFrom "1"

/-- The Sight that is queued for each observer. -/
def shownTo (observer : String) : MindOp Int :=
  (MindOp.setTo (.new .sight "sight" [(touchOther.setTo "2").object]) observer).setFrom "1"

theorem sendWorld_touchOther :
    plaza.sendWorld 1 "5" touchOther = .ok [touched, shownTo "1", shownTo "2"] :=
  rfl

theorem touched_confined : plaza.getId 1 = "1" ∧ plaza.Confined 1 touched :=
  consequence_confined (.sent rfl sendWorld_touchOther (by simp))

/-- An administrator sees the touch. -/
theorem touch_shown_to_other :
    Consequence 1 "1" touchOther plaza (shownTo "2") ∧
      (shownTo "2").header.target = some "2" ∧ ¬ plaza.Directed 1 (shownTo "2") := by
  have isSight : (shownTo "2").header.classNo = .sight := rfl
  have notOwn : ¬ (shownTo "2").header.target = some (plaza.getId 1) := by decide
  have notDirected : ¬ plaza.Directed 1 (shownTo "2") := by
    rintro (isOwn | isLook | uses | touches | moves)
    · exact notOwn isOwn
    · simp [isSight] at isLook
    · simp [isSight, MindWorld.UsesTool] at uses
    · simp [isSight, MindWorld.TouchesReachable] at touches
    · simp [isSight, MindWorld.MovesChecked] at moves
  exact ⟨.sent rfl sendWorld_touchOther (by simp), rfl, notDirected⟩

end QueueWorld

end Cyphesis.Simulation
