import Cyphesis.Ai.PossessionClient

/-!
# Operations that are held back

The operations a mind holds back come to it again in the order in which they arrived.
-/

namespace Cyphesis.Ai

open Cyphesis.Common List Option
open Cyphesis.Foundation

universe u

variable {β : Type u}

namespace PossessionClient

variable {client before after : PossessionClient β} {op resOp : MindOp β}

/-- The operations held back in the queue. -/
def heldOps (client : PossessionClient β) : List (MindOp β) :=
  (client.dispatcher.operationQueue.entries.map OpQueEntry.op).filter MindOp.held

/-- Arrived is what was handled, sent or held. -/
def InOrder (client : PossessionClient β) : Prop :=
  client.handled ++ client.heldOps.map MindOp.plain ++
    client.pendingOperations.map MindOp.plain = client.arrived

/-- An operation of the mind to itself. -/
structure Returns (client : PossessionClient β) (op : MindOp β) : Prop where
  kind : op.kind = .other
  recipient : client.isForMind op = true
  sender : op.sender = some client.mindId
  seconds : op.seconds ≠ none
  futureSeconds : op.futureSeconds = none

/-- A held operation can be brought back to the mind. -/
def Welcome (client : PossessionClient β) (op : MindOp β) : Prop :=
  client.isForMind op = true →
    (op.kind = .tick → client.ownEntity = true → client.pendingOperations ≠ [] →
      client.heldOps = []) ∧
    (op.kind = .other →
      (client.ownEntity = true → client.pendingOperations = [] ∧ client.heldOps = []) ∧
      (client.holdsBack op = true → client.Returns op))

/-- Held operations keep order, sender and time. -/
def Regular (client : PossessionClient β) : ClientEvent β → Prop
  | .operation _ op _ => client.Welcome op.plain
  | .dispatch _ _ => ∀ entry, client.dispatcher.operationQueue.top? = some entry →
      if entry.op.held then client.serverLocalTimeDiff = 0
      else client.Welcome (client.adjusted entry.op)

/-- Only the queue and what is sent changes. -/
structure SameMind (before after : PossessionClient β) : Prop where
  accountId : after.accountId = before.accountId
  mindId : after.mindId = before.mindId
  entityId : after.entityId = before.entityId
  ownEntity : after.ownEntity = before.ownEntity
  pendingOperations : after.pendingOperations = before.pendingOperations
  arrived : after.arrived = before.arrived
  handled : after.handled = before.handled

theorem SameMind.refl (client : PossessionClient β) : SameMind client client :=
  ⟨rfl, rfl, rfl, rfl, rfl, rfl, rfl⟩

theorem SameMind.trans {middle : PossessionClient β} (first : SameMind before middle)
    (second : SameMind middle after) : SameMind before after where
  accountId := second.accountId.trans first.accountId
  mindId := second.mindId.trans first.mindId
  entityId := second.entityId.trans first.entityId
  ownEntity := second.ownEntity.trans first.ownEntity
  pendingOperations := second.pendingOperations.trans first.pendingOperations
  arrived := second.arrived.trans first.arrived
  handled := second.handled.trans first.handled

variable (now : Int)

theorem sameMind_respond (client : PossessionClient β) (resOp : MindOp β) :
    SameMind client (client.respond now resOp) := by
  unfold respond
  dsimp only
  split
  · exact ⟨rfl, rfl, rfl, rfl, rfl, rfl, rfl⟩
  · split
    · exact ⟨rfl, rfl, rfl, rfl, rfl, rfl, rfl⟩
    · exact SameMind.refl client

theorem sameMind_foldl_respond (client : PossessionClient β) (answers : List (MindOp β)) :
    SameMind client (answers.foldl (respond now) client) := by
  apply run_invariant_of_step (SameMind client)
  · exact fun middle resOp same => same.trans (sameMind_respond now middle resOp)
  · exact SameMind.refl client

theorem SameMind.isForMind (same : SameMind before after) (op : MindOp β) :
    after.isForMind op = before.isForMind op := by
  simp only [PossessionClient.isForMind, isMind, same.accountId, same.mindId, same.entityId]

theorem SameMind.returns (same : SameMind before after) (returns : before.Returns op) :
    after.Returns op where
  kind := returns.kind
  recipient := (same.isForMind op).trans returns.recipient
  sender := by rw [same.mindId, returns.sender]
  seconds := returns.seconds
  futureSeconds := returns.futureSeconds

theorem heldOps_add (client : PossessionClient β) (op : MindOp β) :
    ({ client with
      dispatcher := client.dispatcher.addOperationToQueue op client.mindId } :
        PossessionClient β).heldOps.Perm
      ((({ op with sender := some client.mindId } : MindOp β) ::
        client.dispatcher.operationQueue.entries.map OpQueEntry.op).filter MindOp.held) := by
  have pushed := PriorityQueue.push_perm client.dispatcher.operationQueue
    (client.dispatcher.newEntry op client.mindId)
  exact (pushed.map OpQueEntry.op).filter MindOp.held

theorem heldOps_respond_plain (notHeld : resOp.held = false) :
    (client.respond now resOp).heldOps.Perm client.heldOps := by
  unfold respond
  dsimp only
  split
  · exact List.Perm.refl _
  · split
    · apply (heldOps_add client _).trans
      have stillNot : (resolveDispatchTimeForOp now { resOp with
          sender := some (resOp.sender.getD client.mindId) }).held = false := by
        unfold resolveDispatchTimeForOp
        split <;> exact notHeld
      rw [filter_cons_of_neg (by simp [stillNot])]
      exact List.Perm.refl _
    · exact List.Perm.refl _

theorem heldOps_foldl_respond_plain (client : PossessionClient β) (answers : List (MindOp β))
    (notHeld : ∀ answer ∈ answers, answer.held = false) :
    (answers.foldl (respond now) client).heldOps.Perm client.heldOps := by
  induction answers generalizing client with
  | nil => exact List.Perm.refl _
  | cons answer rest ih =>
    apply (ih (client.respond now answer)
      (fun other isOther => notHeld other (mem_cons_of_mem answer isOther))).trans
    exact heldOps_respond_plain now (notHeld answer mem_cons_self)

theorem heldOps_respond_returns (held : op.held = true) (returns : client.Returns op) :
    (client.respond now op).heldOps.Perm (op :: client.heldOps) := by
  have sameSender : ({ op with sender := some (op.sender.getD client.mindId) } : MindOp β) =
      op := by
    rw [returns.sender, getD_some, ← returns.sender]
  have sameTime : resolveDispatchTimeForOp now op = op := by
    obtain ⟨seconds, isSeconds⟩ := Option.ne_none_iff_exists'.mp returns.seconds
    simp [resolveDispatchTimeForOp, returns.futureSeconds, isSeconds]
  have sameFrom : ({ op with sender := some client.mindId } : MindOp β) = op := by
    rw [← returns.sender]
  obtain ⟨id, isRecipient, isMind⟩ : ∃ id, op.recipient = some id ∧ client.isMind id = true := by
    have forMind := returns.recipient
    unfold PossessionClient.isForMind at forMind
    split at forMind
    · simp [returns.kind] at forMind
    · rename_i id isRecipient
      split at forMind
      · simp [returns.kind] at forMind
      · exact ⟨id, isRecipient, forMind⟩
  have responded : client.respond now op = { client with
      dispatcher := client.dispatcher.addOperationToQueue op client.mindId } := by
    unfold respond
    rw [sameSender]
    simp only [isRecipient, isMind, if_true, sameTime]
  rw [responded]
  apply (heldOps_add client op).trans
  rw [sameFrom, filter_cons_of_pos (by simp [held])]
  exact List.Perm.refl _

/-- At most one operation is on its way back. -/
structure Kept (client : PossessionClient β) : Prop where
  inOrder : client.InOrder
  few : client.heldOps.length ≤ 1
  known : client.heldOps ≠ [] → client.ownEntity = true
  pending : ∀ op ∈ client.pendingOperations, op.held = true ∧ client.Returns op
  queued : ∀ op ∈ client.heldOps, client.Returns op

theorem perm_eq_of_length_le_one {α : Type u} {first second : List α} (perm : first.Perm second)
    (few : second.length ≤ 1) : first = second := by
  cases second with
  | nil => exact perm.eq_nil
  | cons only rest =>
    cases rest with
    | nil => exact List.perm_singleton.mp perm
    | cons next more => simp at few

theorem Kept.of_sameMind (kept : before.Kept) (same : SameMind before after)
    (heldOps : after.heldOps.Perm before.heldOps) : after.Kept := by
  have sameHeld : after.heldOps = before.heldOps := perm_eq_of_length_le_one heldOps kept.few
  constructor
  · unfold InOrder
    rw [same.handled, same.pendingOperations, same.arrived, sameHeld]
    exact kept.inOrder
  · rw [sameHeld]
    exact kept.few
  · rw [sameHeld, same.ownEntity]
    exact kept.known
  · intro op isPending
    rw [same.pendingOperations] at isPending
    obtain ⟨held, returns⟩ := kept.pending op isPending
    exact ⟨held, same.returns returns⟩
  · intro op isHeld
    rw [sameHeld] at isHeld
    exact same.returns (kept.queued op isHeld)

variable {answers : List (MindOp β)}

theorem Kept.foldl_respond (kept : client.Kept) (now : Int)
    (notHeld : ∀ answer ∈ answers, answer.held = false) :
    (answers.foldl (respond now) client).Kept :=
  kept.of_sameMind (sameMind_foldl_respond now client answers)
    (heldOps_foldl_respond_plain now client answers notHeld)

theorem held_of_mem_map_plain : ∀ answer ∈ answers.map MindOp.plain, answer.held = false := by
  intro answer isAnswer
  obtain ⟨_, _, rfl⟩ := List.mem_map.mp isAnswer
  rfl

section

variable (kept : client.Kept)

include kept

theorem Kept.ownEntity (known : Bool) :
    ({ client with ownEntity := client.ownEntity || known } : PossessionClient β).Kept where
  inOrder := kept.inOrder
  few := kept.few
  known underWay := by simp [kept.known underWay]
  pending op isPending :=
    ⟨(kept.pending op isPending).1, { (kept.pending op isPending).2 with }⟩
  queued op isHeld := { kept.queued op isHeld with }

theorem Kept.holdBack (notHeld : op.held = false)
    (unknown : client.ownEntity = false) (returns : client.Returns op) :
    (client.holdBack op).Kept := by
  have noneUnderWay : client.heldOps = [] := by
    by_contra underWay
    exact absurd (kept.known underWay) (by simp [unknown])
  constructor
  · have inOrder := kept.inOrder
    unfold InOrder at inOrder ⊢
    rw [noneUnderWay] at inOrder
    have sameHeld : (client.holdBack op).heldOps = [] := noneUnderWay
    rw [sameHeld]
    simp only [PossessionClient.holdBack, notHeld, Bool.false_eq_true, if_false, ← inOrder,
      map_append, map_cons, map_nil, append_nil, append_assoc]
    rfl
  · exact kept.few
  · exact kept.known
  · intro other isPending
    rcases List.mem_append.mp isPending with isOld | isNew
    · exact ⟨(kept.pending other isOld).1, { (kept.pending other isOld).2 with }⟩
    · rw [List.mem_singleton.mp isNew]
      exact ⟨rfl, { returns with }⟩
  · exact fun other isHeld => { kept.queued other isHeld with }

theorem Kept.handle {outcome : MindOutcome β} (notHeld : op.held = false)
    (idle : client.ownEntity = true → client.pendingOperations = [] ∧ client.heldOps = []) :
    (client.handle op outcome).Kept := by
  cases known : client.ownEntity with
  | false =>
    have unchanged : client.handle op outcome =
        { client with ownEntity := client.ownEntity || outcome.ownEntity } := by
      simp [PossessionClient.handle, known]
    rw [unchanged]
    exact kept.ownEntity outcome.ownEntity
  | true =>
    obtain ⟨noPending, noHeld⟩ := idle known
    have inOrder := kept.inOrder
    unfold InOrder at inOrder
    rw [noPending, noHeld] at inOrder
    have sameHeld : (client.handle op outcome).heldOps = [] := noHeld
    constructor
    · unfold InOrder
      rw [sameHeld]
      simp [PossessionClient.handle, known, notHeld, noPending, ← inOrder]
    · simp [sameHeld]
    · exact fun underWay => absurd sameHeld underWay
    · intro other isPending
      have impossible : other ∈ client.pendingOperations := isPending
      simp [noPending] at impossible
    · intro other isHeld
      simp [sameHeld] at isHeld

/-- A tick sends the first one held back. -/
theorem Kept.release {rest : List (MindOp β)} (now : Int)
    (known : client.ownEntity = true) (isFirst : client.pendingOperations = op :: rest)
    (noHeld : client.heldOps = []) {earlier later : List (MindOp β)}
    (notEarlier : ∀ answer ∈ earlier, answer.held = false)
    (notLater : ∀ answer ∈ later, answer.held = false) :
    ((earlier ++ op :: later).foldl (respond now) { client with pendingOperations := rest }).Kept ∧
    ((earlier ++ op :: later).foldl (respond now)
      { client with pendingOperations := rest }).heldOps = [op] := by
  have isPending : op ∈ client.pendingOperations := isFirst ▸ mem_cons_self
  obtain ⟨held, returns⟩ := kept.pending op isPending
  rw [foldl_append, foldl_cons]
  have sameEarlier := sameMind_foldl_respond now
    ({ client with pendingOperations := rest } : PossessionClient β) earlier
  have heldEarlier := heldOps_foldl_respond_plain now
    ({ client with pendingOperations := rest } : PossessionClient β) earlier notEarlier
  generalize earlier.foldl (respond now) { client with pendingOperations := rest } = begun
    at sameEarlier heldEarlier ⊢
  have returnsBegun : begun.Returns op := sameEarlier.returns { returns with }
  have sameOp := sameMind_respond now begun op
  have heldOp := heldOps_respond_returns now held returnsBegun
  generalize begun.respond now op = released at sameOp heldOp ⊢
  have sameLater := sameMind_foldl_respond now released later
  have heldLater := heldOps_foldl_respond_plain now released later notLater
  generalize later.foldl (respond now) released = after at sameLater heldLater ⊢
  have same := (sameEarlier.trans sameOp).trans sameLater
  have noneBegun : begun.heldOps = [] := by
    have noneBefore : ({ client with pendingOperations := rest } : PossessionClient β).heldOps =
        [] := noHeld
    rw [noneBefore] at heldEarlier
    exact heldEarlier.eq_nil
  rw [noneBegun] at heldOp
  have isHeld : after.heldOps = [op] := List.perm_singleton.mp (heldLater.trans heldOp)
  refine ⟨⟨?_, ?_, ?_, ?_, ?_⟩, isHeld⟩
  · have inOrder := kept.inOrder
    unfold InOrder at inOrder ⊢
    rw [noHeld, isFirst] at inOrder
    rw [same.handled, same.pendingOperations, same.arrived, isHeld, ← inOrder]
    simp
  · simp [isHeld]
  · rw [same.ownEntity]
    exact fun _ => known
  · intro other isOther
    rw [same.pendingOperations] at isOther
    obtain ⟨otherHeld, otherReturns⟩ :=
      kept.pending other (isFirst ▸ mem_cons_of_mem op isOther)
    exact ⟨otherHeld, same.returns { otherReturns with }⟩
  · intro other isOther
    rw [isHeld, mem_singleton] at isOther
    rw [isOther]
    exact same.returns { returns with }

theorem Kept.timed (diff : Int) :
    ({ client with serverLocalTimeDiff := diff } : PossessionClient β).Kept where
  inOrder := kept.inOrder
  few := kept.few
  known := kept.known
  pending op isPending :=
    ⟨(kept.pending op isPending).1, { (kept.pending op isPending).2 with }⟩
  queued op isHeld := { kept.queued op isHeld with }

end

theorem Welcome.timed (welcome : client.Welcome op) (diff : Int) :
    ({ client with serverLocalTimeDiff := diff } : PossessionClient β).Welcome op := by
  intro forMind
  obtain ⟨atTick, atOther⟩ := welcome forMind
  refine ⟨atTick, fun isOther => ⟨(atOther isOther).1, ?_⟩⟩
  exact fun holdsBack => { (atOther isOther).2 holdsBack with }

/-- Client without its first entry. -/
def popped (client : PossessionClient β) (entry : OpQueEntry (MindOp β) String) (now : Int) :
    PossessionClient β :=
  { client with
    dispatcher := client.dispatcher.dispatchTop entry .processUntil (now * 1000000) [] }

theorem heldOps_of_top {entry : OpQueEntry (MindOp β) String}
    (isTop : client.dispatcher.operationQueue.top? = some entry) :
    client.heldOps = (entry.op :: (client.dispatcher.operationQueue.pop.entries.map
      OpQueEntry.op)).filter MindOp.held ∧
    (client.popped entry now).heldOps =
      (client.dispatcher.operationQueue.pop.entries.map OpQueEntry.op).filter MindOp.held := by
  constructor
  · unfold heldOps
    rw [PriorityQueue.entries_of_top? isTop, map_cons]
  · rfl

theorem sameMind_popped (client : PossessionClient β) (entry : OpQueEntry (MindOp β) String)
    (now : Int) : SameMind client (client.popped entry now) :=
  ⟨rfl, rfl, rfl, rfl, rfl, rfl, rfl⟩

variable [Inhabited β]

variable {outcome : MindOutcome β}

section

variable (kept : client.Kept)

include kept

theorem Kept.mindOperation (now : Int)
    (notHeld : op.held = false) (forMind : client.isForMind op = true)
    (welcome : client.Welcome op) :
    ((client.mindOperation op outcome).2.foldl (respond now)
      (client.mindOperation op outcome).1).Kept := by
  obtain ⟨atTick, atOther⟩ := welcome forMind
  unfold PossessionClient.mindOperation
  cases isKind : op.kind with
  | info => exact (kept.ownEntity outcome.ownEntity).foldl_respond now held_of_mem_map_plain
  | error => exact kept
  | tick =>
    have notAnswer : ∀ answer ∈ client.nextTick :: outcome.answers.map MindOp.plain,
        answer.held = false := by
      intro answer isAnswer
      rcases List.mem_cons.mp isAnswer with rfl | isScript
      · rfl
      · exact held_of_mem_map_plain answer isScript
    have notAny : ∀ answer ∈ client.nextTick :: outcome.answers.map MindOp.plain ++
        outcome.later.map MindOp.plain, answer.held = false := by
      intro answer isAnswer
      rcases List.mem_append.mp isAnswer with isEarlier | isLater
      · exact notAnswer answer isEarlier
      · exact held_of_mem_map_plain answer isLater
    dsimp only [processTick]
    split
    · rename_i known
      cases isPending : client.pendingOperations with
      | nil => exact kept.foldl_respond now notAny
      | cons first rest =>
        have noHeld := atTick isKind known (by simp [isPending])
        exact (kept.release now known isPending noHeld notAnswer held_of_mem_map_plain).1
    · exact kept.foldl_respond now notAny
  | other =>
    obtain ⟨idle, canReturn⟩ := atOther isKind
    dsimp only
    split
    · rename_i holdsBack
      have unknown : client.ownEntity = false := by
        simp only [PossessionClient.holdsBack, Bool.and_eq_true, Bool.not_eq_true'] at holdsBack
        exact holdsBack.1
      exact kept.holdBack notHeld unknown (canReturn holdsBack)
    · exact (kept.handle notHeld idle).foldl_respond now held_of_mem_map_plain

theorem Kept.processOperation (now : Int)
    (notHeld : op.held = false) (welcome : client.Welcome op) :
    (client.processOperation now op outcome).Kept := by
  unfold PossessionClient.processOperation
  split
  · rename_i forMind
    exact kept.mindOperation now notHeld forMind welcome
  · exact kept

theorem Kept.operation (now : Int)
    (notHeld : op.held = false) (welcome : client.Welcome op) :
    (client.operation now op outcome).Kept := by
  unfold PossessionClient.operation
  cases op.seconds with
  | none => exact kept.processOperation now notHeld welcome
  | some seconds =>
    exact (kept.timed (now - seconds)).processOperation now notHeld (welcome.timed _)

/-- An operation that is brought back is handled as it arrived. -/
theorem Kept.deliver {entry : OpQueEntry (MindOp β) String} {outcome : MindOutcome β} (now : Int)
    (isTop : client.dispatcher.operationQueue.top? = some entry) (held : entry.op.held = true)
    (sameClock : client.serverLocalTimeDiff = 0) :
    ((client.popped entry now).processOperation now
      ((client.popped entry now).adjusted entry.op) outcome).Kept ∧
    ((client.popped entry now).processOperation now
      ((client.popped entry now).adjusted entry.op) outcome).handled =
        client.handled ++ [entry.op.plain] := by
  obtain ⟨isHeld, isPopped⟩ := heldOps_of_top now isTop
  rw [filter_cons_of_pos (by simp [held]), ← isPopped] at isHeld
  have same := sameMind_popped client entry now
  have few := kept.few
  rw [isHeld, length_cons] at few
  have noneLeft : (client.popped entry now).heldOps = [] := List.length_eq_zero_iff.mp (by omega)
  rw [noneLeft] at isHeld
  have known : client.ownEntity = true := kept.known (by simp [isHeld])
  have returns : client.Returns entry.op := kept.queued entry.op (by simp [isHeld])
  have sameOp : (client.popped entry now).adjusted entry.op = entry.op := by
    obtain ⟨seconds, isSeconds⟩ := Option.ne_none_iff_exists'.mp returns.seconds
    have diff : (client.popped entry now).serverLocalTimeDiff = 0 := sameClock
    unfold adjusted
    rw [diff, isSeconds, getD_some, Int.sub_zero, ← isSeconds]
  have forMind : (client.popped entry now).isForMind entry.op = true :=
    (same.isForMind entry.op).trans returns.recipient
  have notHeldBack : (client.popped entry now).holdsBack entry.op = false := by
    unfold holdsBack
    rw [same.ownEntity, known]
    rfl
  rw [sameOp]
  unfold PossessionClient.processOperation PossessionClient.mindOperation
  simp only [forMind, if_true, returns.kind, notHeldBack, Bool.false_eq_true, if_false]
  have isHandled : ((client.popped entry now).handle entry.op outcome).Kept := by
    have sameHeld : ((client.popped entry now).handle entry.op outcome).heldOps = [] := noneLeft
    have inOrder := kept.inOrder
    unfold InOrder at inOrder
    rw [isHeld] at inOrder
    constructor
    · unfold InOrder
      rw [sameHeld]
      simpa [PossessionClient.handle, same.ownEntity, known, held, same.handled, same.arrived,
        same.pendingOperations] using inOrder
    · simp [sameHeld]
    · exact fun underWay => absurd sameHeld underWay
    · intro other isPending
      obtain ⟨otherHeld, otherReturns⟩ := kept.pending other isPending
      exact ⟨otherHeld, { otherReturns with }⟩
    · intro other isOther
      simp [sameHeld] at isOther
  refine ⟨isHandled.foldl_respond now held_of_mem_map_plain, ?_⟩
  rw [(sameMind_foldl_respond now _ _).handled]
  simp [PossessionClient.handle, same.ownEntity, known, same.handled]

theorem Kept.dispatch (now : Int)
    (regular : client.Regular (.dispatch now outcome)) : (client.dispatch now outcome).Kept := by
  unfold PossessionClient.dispatch
  cases isTop : client.dispatcher.operationQueue.top? with
  | none => exact kept
  | some entry =>
    dsimp only
    split
    · have condition := regular entry isTop
      cases held : entry.op.held with
      | true =>
        rw [if_pos held] at condition
        exact (kept.deliver now isTop held condition).1
      | false =>
        rw [if_neg (by simp [held])] at condition
        obtain ⟨isHeld, isPopped⟩ := heldOps_of_top now isTop
        rw [filter_cons_of_neg (by simp [held]), ← isPopped] at isHeld
        have same := sameMind_popped client entry now
        have keptPopped : (client.popped entry now).Kept :=
          kept.of_sameMind same (by rw [isHeld])
        have notHeld : ((client.popped entry now).adjusted entry.op).held = false := held
        apply keptPopped.processOperation now notHeld
        intro forMind
        obtain ⟨atTick, atOther⟩ := condition forMind
        rw [isHeld] at atTick atOther
        refine ⟨atTick, fun isOther => ⟨(atOther isOther).1, ?_⟩⟩
        exact fun holdsBack => { (atOther isOther).2 holdsBack with }
    · exact kept

theorem Kept.step {event : ClientEvent β} (regular : client.Regular event) :
    (client.step event).Kept := by
  cases event with
  | operation now op outcome => exact kept.operation now rfl regular
  | dispatch now outcome => exact kept.dispatch now regular

end

variable (accountId mindId entityId : String)

omit [Inhabited β] in
theorem kept_created : (created accountId mindId entityId : PossessionClient β).Kept where
  inOrder := rfl
  few := by simp [created, heldOps, OperationsDispatcher.initial, PriorityQueue.empty]
  known underWay := absurd rfl underWay
  pending op isPending := absurd isPending not_mem_nil
  queued op isHeld := absurd isHeld not_mem_nil

/-- Each tick sends back the first. -/
structure BringsBack (client : PossessionClient β) : Prop where
  releases : ∀ now tick outcome op rest, tick.kind = .tick → client.isForMind tick = true →
    client.ownEntity = true → client.heldOps = [] → client.pendingOperations = op :: rest →
      (client.processOperation now tick outcome).heldOps = [op] ∧
        (client.processOperation now tick outcome).pendingOperations = rest
  delivers : ∀ now outcome entry, client.dispatcher.operationQueue.top? = some entry →
    entry.op.held = true → OperationsDispatcher.isDue entry (now * 1000000) = true →
      client.serverLocalTimeDiff = 0 →
        (client.dispatch now outcome).handled = client.handled ++ [entry.op.plain]

theorem Kept.bringsBack (kept : client.Kept) : client.BringsBack := by
  constructor
  · intro now tick outcome op rest isTick forMind known noHeld isFirst
    have notAnswer : ∀ answer ∈ client.nextTick :: outcome.answers.map MindOp.plain,
        answer.held = false := by
      intro answer isAnswer
      rcases List.mem_cons.mp isAnswer with rfl | isScript
      · rfl
      · exact held_of_mem_map_plain answer isScript
    have released := kept.release now known isFirst noHeld notAnswer
      (@held_of_mem_map_plain _ outcome.later)
    have processed : client.processOperation now tick outcome =
        (client.nextTick :: outcome.answers.map MindOp.plain ++
          op :: outcome.later.map MindOp.plain).foldl (respond now)
            { client with pendingOperations := rest } := by
      simp [PossessionClient.processOperation, forMind, PossessionClient.mindOperation, isTick,
        processTick, known, isFirst]
    rw [processed]
    exact ⟨released.2, (sameMind_foldl_respond now _ _).pendingOperations⟩
  · intro now outcome entry isTop held due sameClock
    unfold PossessionClient.dispatch
    rw [isTop]
    dsimp only
    rw [if_pos due]
    exact (kept.deliver now isTop held sameClock).2

/-- Operations that were held back for an entity are handled in the order in which they came. -/
theorem run_inOrder (events : List (ClientEvent β))
    (admissible : Admissible step Regular (created accountId mindId entityId) events) :
    (run step (created accountId mindId entityId) events).InOrder ∧
      (run step (created accountId mindId entityId) events).BringsBack := by
  have kept : (run step (created accountId mindId entityId) events).Kept := by
    apply run_invariant Kept
    · exact fun _ _ kept regular => kept.step regular
    · exact kept_created accountId mindId entityId
    · exact admissible
  exact ⟨kept.inOrder, kept.bringsBack⟩

/-- A Sight for the mind, at two seconds. -/
def sightFrom (sender : String) : MindOp Unit where
  kind := .other
  recipient := some "mind"
  sender := some sender
  seconds := some 2000
  futureSeconds := none
  content := ()
  held := false

/-- An Info for the mind. -/
def typeInfo : MindOp Unit :=
  { sightFrom "account" with kind := .info }

/-- A tick of the mind. -/
def mindTick : MindOp Unit :=
  { sightFrom "mind" with kind := .tick }

/-- Held back, and brought back by a tick. -/
def broughtBack (sender : String) : List (ClientEvent Unit) :=
  [.operation 2000 (sightFrom sender) ⟨false, [], []⟩, .operation 2000 typeInfo ⟨true, [], []⟩,
    .operation 2000 mindTick ⟨false, [], []⟩, .dispatch 2000 ⟨false, [], []⟩]

/-- Its own is brought back as it was. -/
theorem run_inOrder_own :
    (run step (created "account" "mind" "entity") (broughtBack "mind")).InOrder ∧
      (run step (created "account" "mind" "entity") (broughtBack "mind")).BringsBack := by
  apply run_inOrder
  have topHeld : (run step (created "account" "mind" "entity")
      ((broughtBack "mind").take 3)).dispatcher.operationQueue.top?.map (·.op.held) =
        some true := by
    decide +kernel
  refine ⟨fun _ => ⟨?_, fun _ => ⟨?_, fun _ => ?_⟩⟩, fun _ => ⟨?_, ?_⟩, fun _ => ⟨?_, ?_⟩, ?_,
    trivial⟩
  · exact fun isTick => absurd isTick nofun
  · exact fun known => absurd known (by decide)
  · exact ⟨rfl, by decide, rfl, nofun, rfl⟩
  · exact fun isTick => absurd isTick nofun
  · exact fun isOther => absurd isOther nofun
  · exact fun _ _ _ => by decide +kernel
  · exact fun isOther => absurd isOther nofun
  · intro entry isTop
    change (run step (created "account" "mind" "entity")
      ((broughtBack "mind").take 3)).dispatcher.operationQueue.top? = some entry at isTop
    rw [isTop, map_some, Option.some.injEq] at topHeld
    rw [if_pos topHeld]
    decide +kernel

/-- It comes back from the mind itself. -/
theorem run_sender_lost :
    ¬(run step (created "account" "mind" "entity") (broughtBack "seven")).InOrder := by
  unfold InOrder
  decide +kernel

end PossessionClient

end Cyphesis.Ai
