import Cyphesis.Simulation.MindsProperty

/-!
# Moves asked for by minds

A mind may ask that another entity is moved.
-/

namespace Cyphesis.Simulation

open Cyphesis.Rules Option

namespace MindOp

variable {δ : Type}

section

variable (op : MindOp δ) (text recipient : String)

theorem clientError_classNo : (op.clientError text recipient).header.classNo = .error := by
  unfold clientError
  split <;> rfl

theorem clientError_target : (op.clientError text recipient).header.target.getD "" = recipient := by
  unfold clientError
  split
  · next empty => exact empty.symm
  · rfl

end

end MindOp

namespace MindWorld

variable {ι δ : Type} [DecidableEq ι] [Zero δ] [Add δ] (world : MindWorld ι δ)

variable (ent : ι) (op : MindOp δ) (arg : Fields δ)

/-- The operation is a Move of another existing entity. -/
structure MovesOther (ent : ι) (op : MindOp δ) (arg : Fields δ) (other : ι) : Prop where
  isMove : op.header.classNo = .move
  isArg : ∃ first ∈ op.args.head?, first.asRootEntity = some arg
  isOther : ∃ otherId ∈ arg.id, otherId ≠ world.getId ent ∧
    world.getEntity otherId = some other

variable (mindId : String) (relays : List (Int × RelayEntry))

/-- Passed on, or else refused once. -/
def ChecksMove (op : MindOp δ) (arg : Fields δ) (other : ι) : Prop :=
  ∃ result, world.externalOperation ent mindId relays op = .ok result ∧
    ((∃ forwarded ∈ result.toWorld, forwarded.header.classNo = .move) ↔
      world.MayMove ent other arg) ∧
    (∀ forwarded ∈ result.toWorld, forwarded.header.classNo = .move →
      ∃ moved, forwarded.args = [.entity false moved] ∧ moved.id = arg.id ∧
        moved.loc = arg.loc ∧ moved.pos = arg.pos ∧
          ∀ entry ∈ moved.attributes, entry.1 = "orientation" ∨ entry.1 = "amount") ∧
    ((∀ forwarded ∈ result.toWorld, forwarded.header.classNo ≠ .move) →
      ∃ error, result.toWorld = [error] ∧ error.header.classNo = .error ∧
        error.header.target.getD "" = world.getId ent)

/-- A refusal goes to the entity. -/
def Answerable (other : ι) : Prop :=
  op.header.refno = none ∧ op.header.target = none ∧
    (∀ targetLoc, world.Admitted ent other arg targetLoc → IsPoint arg.pos) ∧
    (world.MayMove ent other arg → (world.scene.parent other).isSome = true) ∧
      (world.Unopposed ent other → world.OutOfReach ent other arg →
        op.header.sender.getD "" = world.getId ent)

theorem externalOperation_eq
    (op : MindOp δ) (noRefno : op.header.refno = none) (notGet : op.header.classNo ≠ .get) :
    world.externalOperation ent mindId relays op =
      (world.mind2body ent op).map fun mres =>
        ⟨(markFirst none mres).map (·.setFrom (world.getId ent)), [], relays⟩ := by
  simp only [externalOperation, noRefno, notGet, if_false, thoughtOperation, MindOp.object,
    AtlasObject.asOperation, bind, Except.bind]
  cases world.mind2body ent op with
  | error fault => rfl
  | ok mres => simp [Except.map, pure, Except.pure]

theorem mind2body_of_movesOther {ent : ι} {op : MindOp δ} {arg : Fields δ} {otherId : String}
    (noTarget : op.header.target = none) (isMove : op.header.classNo = .move)
    {first : AtlasObject δ} (isFirst : op.args.head? = some first)
    (isArg : first.asRootEntity = some arg) (isId : arg.id = some otherId)
    (notSelf : otherId ≠ world.getId ent) :
    world.mind2body ent op = world.moveOtherEntity ent op arg otherId := by
  rcases List.head?_eq_some_iff.mp isFirst with ⟨rest, isArgs⟩
  simp only [mind2body, noTarget, isMove, mindMoveOperation, isArgs, isArg, isId, notSelf,
    isSome_none, Bool.false_eq_true, if_false, ne_eq, not_false_eq_true, if_true]

omit [Zero δ] [Add δ] in
theorem externalRelayedOperation_classNo (refno : Int)
    (op : MindOp δ) :
    ∀ answer ∈ (externalRelayedOperation relays refno op).toWorld,
      answer.header.classNo = .relay := by
  intro answer isAnswer
  unfold externalRelayedOperation at isAnswer
  split at isAnswer
  · simp at isAnswer
  · split at isAnswer
    · obtain rfl := List.mem_singleton.mp isAnswer
      rfl
    · simp at isAnswer

theorem checksMove_singleton {ent : ι} {mindId : String} {relays : List (Int × RelayEntry)}
    {op : MindOp δ} {arg : Fields δ} {other : ι} {made : MindOp δ}
    (noRefno : op.header.refno = none) (isMove : op.header.classNo = .move)
    (filtered : world.mind2body ent op = .ok [made]) :
    world.ChecksMove ent mindId relays op arg other ↔
      (made.header.classNo = .move ↔ world.MayMove ent other arg) ∧
      (made.header.classNo = .move → ∃ moved, made.args = [.entity false moved] ∧
        moved.id = arg.id ∧ moved.loc = arg.loc ∧ moved.pos = arg.pos ∧
          ∀ entry ∈ moved.attributes, entry.1 = "orientation" ∨ entry.1 = "amount") ∧
      (made.header.classNo ≠ .move → made.header.classNo = .error ∧
        made.header.target.getD "" = world.getId ent) := by
  unfold ChecksMove
  rw [world.externalOperation_eq ent mindId relays op noRefno (by simp [isMove]), filtered]
  simp [Except.map, markFirst, MindOp.setFrom]

theorem unchecked_of_fault {world : MindWorld ι δ} {ent : ι} {mindId : String}
    {relays : List (Int × RelayEntry)} {op : MindOp δ} {arg : Fields δ} {other : ι} {fault : Fault}
    (noRefno : op.header.refno = none) (isMove : op.header.classNo = .move)
    (filtered : world.mind2body ent op = .error fault) :
    ¬ world.ChecksMove ent mindId relays op arg other := by
  rintro ⟨result, isResult, -⟩
  rw [world.externalOperation_eq ent mindId relays op noRefno (by simp [isMove]),
    filtered] at isResult
  cases isResult

theorem MayMove.admitted {world : MindWorld ι δ} {ent other : ι} {arg : Fields δ}
    (may : world.MayMove ent other arg) :
    ∃ targetLoc, world.Admitted ent other arg targetLoc :=
  may.arrives.imp fun _ arrives => ⟨may.unopposed, may.reaches, arrives.1, arrives.2.1⟩

/-- The Move of a mind is passed on or refused as it should be, just if it is answerable. -/
theorem checksMove_iff_answerable {op : MindOp δ} {arg : Fields δ} {other : ι}
    (moves : world.MovesOther ent op arg other) :
    world.ChecksMove ent mindId relays op arg other ↔ world.Answerable ent op arg other := by
  rcases moves with ⟨isMove, ⟨first, isFirst, isArg⟩, otherId, isId, notSelf, found⟩
  unfold Answerable
  cases isRefno : op.header.refno with
  | some refno =>
    -- The operation is taken for the answer to a relayed one.
    have unchecked : ¬ world.ChecksMove ent mindId relays op arg other := by
      rintro ⟨result, isResult, -, -, answered⟩
      simp only [externalOperation, isRefno] at isResult
      obtain rfl := Except.ok.inj isResult
      have relayed := externalRelayedOperation_classNo relays refno op
      rcases answered fun answer isAnswer => by simp [relayed answer isAnswer] with
        ⟨error, isError, isClass, -⟩
      simp [relayed error (by simp [isError])] at isClass
    simp [unchecked]
  | none =>
  cases isTarget : op.header.target with
  | some target =>
    have unchecked : ¬ world.ChecksMove ent mindId relays op arg other := by
      rintro ⟨result, isResult, -, -, answered⟩
      have dropped : world.mind2body ent op = .ok [] := by simp [mind2body, isTarget]
      rw [world.externalOperation_eq ent mindId relays op isRefno (by simp [isMove]),
        dropped] at isResult
      obtain rfl := Except.ok.inj isResult
      rcases answered (by simp [markFirst]) with ⟨error, isError, -⟩
      simp [markFirst] at isError
    simp [unchecked]
  | none =>
  have filtered := world.mind2body_of_movesOther isTarget isMove isFirst isArg isId notSelf
  simp only [true_and]
  have answer := world.moveOtherEntity_answer ent op arg found
  rw [← filtered] at answer
  clear filtered
  generalize isFiltered : world.mind2body ent op = outcome at answer
  cases answer with
  | @forwarded above may isPoint isIn =>
    rw [world.checksMove_singleton isRefno isMove isFiltered]
    have isClass : (world.forwardedMove ent above op arg).header.classNo = .move := isMove
    have notOut := may.not_outOfReach
    simp only [isClass, may, isPoint, notOut, isIn, true_and, false_implies, implies_true, and_true,
      isSome_some, true_implies, ne_eq, not_true_eq_false, iff_true]
    refine ⟨_, rfl, rfl, rfl, rfl, ?_⟩
    simp
  | nowhere admitted arrives isIn =>
    simp [unchecked_of_fault isRefno isMove isFiltered, admitted.mayMove arrives, isIn]
  | misplaced admitted notPoint =>
    simp only [unchecked_of_fault isRefno isMove isFiltered, false_iff, not_and]
    exact fun isPoint => absurd (isPoint _ admitted) notPoint
  | refused notAdmitted notOut =>
    have notMay : ¬ world.MayMove ent other arg := fun may =>
      may.admitted.elim fun targetLoc admitted => notAdmitted targetLoc admitted
    rw [world.checksMove_singleton isRefno isMove isFiltered]
    simp only [MindOp.clientError_classNo, MindOp.clientError_target, notMay, notAdmitted]
    simp only [not_and] at notOut
    simpa using fun unopposed outOfReach => absurd outOfReach (notOut unopposed)
  | outOfReach unopposed out isPoint =>
    have notMay : ¬ world.MayMove ent other arg := fun may => may.not_outOfReach out
    rw [world.checksMove_singleton isRefno isMove isFiltered]
    simp only [MindOp.clientError_classNo, MindOp.clientError_target, notMay, unopposed, out]
    simpa using fun _ => isPoint

/-- An administrator is moved to nowhere. -/
def lostMove : MindOp Int :=
  (MindOp.new .move "move" [naming "2" (some "99")]).setFrom "5"

/-- What the move asks for. -/
def lostMoveArg : Fields Int :=
  { objtype := "obj", id := some "2", loc := some "99", pos := none, attributes := [] }

theorem movesOther_lostMove : smallWorld.MovesOther 1 lostMove lostMoveArg 2 :=
  ⟨rfl, ⟨_, rfl, rfl⟩, "2", rfl, by decide, rfl⟩

theorem lostMove_checksMove_iff :
    smallWorld.ChecksMove 1 "5" [] lostMove lostMoveArg 2 ↔
      smallWorld.Answerable 1 lostMove lostMoveArg 2 :=
  smallWorld.checksMove_iff_answerable 1 "5" [] movesOther_lostMove

/-- Told to `"5"`, not to the player. -/
theorem lostMove_not_checksMove :
    smallWorld.MovesOther 1 lostMove lostMoveArg 2 ∧
      ¬ smallWorld.ChecksMove 1 "5" [] lostMove lostMoveArg 2 := by
  have filtered : smallWorld.mind2body 1 lostMove =
      .ok [lostMove.clientError "Target parent entity doesn't exist." "5"] := rfl
  have toMind : ¬ "5" = smallWorld.getId 1 := by decide
  rw [smallWorld.checksMove_singleton rfl rfl filtered, MindOp.clientError_classNo,
    MindOp.clientError_target]
  simp [toMind, movesOther_lostMove]

end MindWorld

end Cyphesis.Simulation
