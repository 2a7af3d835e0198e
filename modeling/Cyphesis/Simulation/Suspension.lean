import Cyphesis.Atlas.Element
import Cyphesis.Common.OperationsDispatcher

/-!
# Suspending the world

While the world is suspended Tick operations are put on a second queue. What an entity does with an
operation, and whether it suspends or resumes the world, is part of the action.
-/

namespace Cyphesis.Simulation

open Cyphesis.Atlas List
open Cyphesis.Common
open Cyphesis.Foundation

/-- Classes the router tells apart. -/
inductive OpClass where
  | tick
  | sight
  | sound
  | appearance
  | disappearance
  | unseen
  | other (name : String)
  deriving DecidableEq

/-- What the router uses of an operation. -/
structure RootOperation where
  classNo : OpClass
  sender : Option String
  target : Option String
  serialno : Option Int
  refno : Option Int
  args : List Element
  seconds : Option Int
  futureSeconds : Option Int

/-- The same but for the time. -/
structure RootOperation.SameBut (first second : RootOperation) : Prop where
  classNo : first.classNo = second.classNo
  sender : first.sender = second.sender
  target : first.target = second.target
  serialno : first.serialno = second.serialno
  refno : first.refno = second.refno
  args : first.args = second.args

instance : QueuedOperation RootOperation String where
  milliseconds op := op.seconds.getD 0
  setFrom op ent := { op with sender := some ent }

/-- An operation in the queue, with the entity it is for. -/
abbrev Entry :=
  OpQueEntry RootOperation String

/-- Handled, held back, or dropped without an entity. -/
inductive Outcome where
  | delivered (op : RootOperation) (target : String)
  | heldBack (entry : Entry)
  | gone
  | unseen
  | noTarget

/-- The router.  The last two fields are history. -/
structure WorldRouter where
  dispatcher : OperationsDispatcher RootOperation String
  suspendedQueue : List Entry
  isSuspended : Bool
  eobjects : List String
  destroyed : List String
  outcomes : List (Entry × Outcome)
  resumes : List (List (Entry × Entry))

/-- Observers are whom a broadcast reaches. -/
inductive Effect where
  | message (op : RootOperation) (fromEntity : String) (observers : List String)
  | setIsSuspended (suspended : Bool)
  | create (id : String)
  | destroy (id : String)

/-- What happens, and what results. -/
structure Handling where
  effects : List Effect
  res : List (RootOperation × List String)

/-- What the router of the world does. -/
inductive RouterAction where
  | dispatch (caller : DispatchCaller) (now : Int) (handling : Handling)
  | perform (now : Int) (effect : Effect)

namespace WorldRouter

def initial : WorldRouter :=
  { dispatcher := .initial, suspendedQueue := [], isSuspended := false, eobjects := [],
    destroyed := [], outcomes := [], resumes := [] }

/-- `getTimeAsSeconds`, when the clock shows `now`. -/
def timeAsSeconds (now : Int) : Int :=
  now / 1000000

/-- `resolveDispatchTimeForOp`, with multiplier one. -/
def resolveDispatchTimeForOp (now : Int) (op : RootOperation) : RootOperation :=
  match op.futureSeconds, op.seconds with
  | some future, _ =>
    { op with seconds := some (timeAsSeconds now + future), futureSeconds := none }
  | none, none => { op with seconds := some (timeAsSeconds now) }
  | none, some _ => op

def shouldBroadcastPerception (op : RootOperation) : Bool :=
  op.classNo = .sight || op.classNo = .sound || op.classNo = .appearance ||
    op.classNo = .disappearance

def addOperationToQueue (router : WorldRouter) (op : RootOperation) (ent : String) :
    WorldRouter :=
  { router with dispatcher := router.dispatcher.addOperationToQueue op ent }

def message (router : WorldRouter) (now : Int) (op : RootOperation) (fromEntity : String)
    (observers : List String) : WorldRouter :=
  match op.target with
  | none =>
    if shouldBroadcastPerception op then
      observers.foldl (fun current observer => current.addOperationToQueue
        { resolveDispatchTimeForOp now op with target := some observer } fromEntity) router
    else router
  | some _ => router.addOperationToQueue (resolveDispatchTimeForOp now op) fromEntity

/-- Add again; each with its entry. -/
def requeue (dispatcher : OperationsDispatcher RootOperation String) :
    List Entry → OperationsDispatcher RootOperation String × List (Entry × Entry)
  | [] => (dispatcher, [])
  | ope :: rest =>
    ((requeue (dispatcher.addOperationToQueue ope.op ope.fromEntity) rest).1,
      (ope, dispatcher.newEntry ope.op ope.fromEntity) ::
        (requeue (dispatcher.addOperationToQueue ope.op ope.fromEntity) rest).2)

def resumeWorld (router : WorldRouter) : WorldRouter :=
  { router with
    dispatcher := (requeue router.dispatcher router.suspendedQueue).1
    suspendedQueue := []
    resumes := router.resumes ++ [(requeue router.dispatcher router.suspendedQueue).2] }

def setIsSuspended (router : WorldRouter) (suspended : Bool) : WorldRouter :=
  if !suspended && router.isSuspended then
    resumeWorld { router with isSuspended := suspended }
  else { router with isSuspended := suspended }

def perform (now : Int) (router : WorldRouter) : Effect → WorldRouter
  | .message op fromEntity observers => router.message now op fromEntity observers
  | .setIsSuspended suspended => router.setIsSuspended suspended
  | .create id => { router with eobjects := router.eobjects ++ [id] }
  | .destroy id =>
    { router with eobjects := router.eobjects.erase id, destroyed := router.destroyed ++ [id] }

/-- Entry that is suspended. -/
def suspendedEntry (router : WorldRouter) (op : RootOperation) (ent : String) : Entry :=
  { op := op
    fromEntity := ent
    timeForDispatch := QueuedOperation.milliseconds String op
    sequence := router.suspendedQueue.length }

/-- The target is found, and ticks are held back. -/
def outcome (router : WorldRouter) (now : Int) (entry : Entry) : Outcome :=
  match entry.op.target with
  | none => .noTarget
  | some target =>
    if target = "" then .noTarget
    else if target = entry.fromEntity ∧ target ∈ router.destroyed then .gone
    else if target ≠ entry.fromEntity ∧
        (target ∉ router.eobjects ∨ target ∈ router.destroyed) then .unseen
    else if router.isSuspended = true ∧ entry.op.classNo = .tick then
      .heldBack (router.suspendedEntry entry.op target)
    else .delivered { entry.op with seconds := some (timeAsSeconds now) } target

/-- Tells an entity that a target is gone. -/
def unseenOp (op : RootOperation) (fromEntity : String) : RootOperation :=
  { classNo := .unseen
    sender := none
    target := some fromEntity
    serialno := none
    refno := op.serialno
    args := [.map [("destroyed", .int 1), ("id", .string (op.target.getD ""))]]
    seconds := none
    futureSeconds := none }

/-- An answer refers to the serial number. -/
def withRefno (op resOp : RootOperation) : RootOperation :=
  if op.sender = resOp.target ∧ op.serialno.isSome ∧ resOp.refno.isNone then
    { resOp with refno := op.serialno }
  else resOp

/-- Send on a resulting operation. -/
def sendResult (now : Int) (op : RootOperation) (ent : String) (router : WorldRouter)
    (result : RootOperation × List String) : WorldRouter :=
  if result.1.sender = none ∨ result.1.sender = some ent then
    router.message now (withRefno op result.1) ent result.2
  else if result.1.sender.getD "" ∈ router.eobjects then
    router.message now (withRefno op result.1) (result.1.sender.getD "") result.2
  else router

/-- Carry out the outcome of an entry. -/
def carryOut (router : WorldRouter) (now : Int) (entry : Entry) (handling : Handling) :
    Outcome → WorldRouter
  | .delivered op target =>
    handling.res.foldl (sendResult now op target) (handling.effects.foldl (perform now) router)
  | .heldBack held => { router with suspendedQueue := router.suspendedQueue ++ [held] }
  | .unseen =>
    if entry.fromEntity ∈ router.destroyed then router
    else router.message now (unseenOp entry.op entry.fromEntity) entry.fromEntity []
  | .gone => router
  | .noTarget => router

/-- The entry the dispatcher takes next, if due. -/
def nextEntry (router : WorldRouter) (caller : DispatchCaller) (now : Int) : Option Entry :=
  match router.dispatcher.operationQueue.top? with
  | none => none
  | some entry =>
    if caller = .processUntil ∧ OperationsDispatcher.isDue entry now = false then none
    else some entry

/-- When an entry has left the queue. -/
def taken (router : WorldRouter) (caller : DispatchCaller) (now : Int) (entry : Entry)
    (outcome : Outcome) : WorldRouter :=
  { router with
    dispatcher := router.dispatcher.dispatchTop entry caller now []
    outcomes := router.outcomes ++ [(entry, outcome)] }

/-- Dispatch an entry the dispatcher has taken. -/
def dispatchEntry (router : WorldRouter) (caller : DispatchCaller) (now : Int) (entry : Entry)
    (handling : Handling) : WorldRouter :=
  (router.taken caller now entry (router.outcome now entry)).carryOut now entry handling
    (router.outcome now entry)

def act (router : WorldRouter) : RouterAction → WorldRouter
  | .dispatch caller now handling =>
    match router.nextEntry caller now with
    | none => router
    | some entry => router.dispatchEntry caller now entry handling
  | .perform now effect => router.perform now effect

/-- Entries that were held back, in order. -/
def held (router : WorldRouter) : List Entry :=
  router.outcomes.filterMap fun outcome =>
    match outcome.2 with
    | .heldBack entry => some entry
    | _ => none

/-- The operations that were held back and added again, with their entries. -/
def returned (router : WorldRouter) : List (Entry × Entry) :=
  router.resumes.flatten

/-- What can become of an entry. -/
def Resolved (destroyed : List String) (entry : Entry) : Outcome → Prop
  | .delivered op target => entry.op.target = some target ∧ op.SameBut entry.op
  | .heldBack held =>
    held.op = entry.op ∧ entry.op.target = some held.fromEntity ∧ held.fromEntity ≠ "" ∧
      held.timeForDispatch = QueuedOperation.milliseconds String held.op
  | .gone => entry.op.target = some entry.fromEntity ∧ entry.fromEntity ∈ destroyed
  | .unseen => entry.op.target ≠ some entry.fromEntity
  | .noTarget => entry.op.target = none ∨ entry.op.target = some ""

/-- Entry that is made of a suspended one. -/
structure Remade (pair : Entry × Entry) : Prop where
  op : pair.2.op = QueuedOperation.setFrom pair.1.op pair.1.fromEntity
  fromEntity : pair.2.fromEntity = pair.1.fromEntity
  time : pair.2.timeForDispatch = QueuedOperation.milliseconds String pair.1.op

/-- Suspended, or added again once. -/
structure Bookkeeping (router : WorldRouter) : Prop where
  consistent : OperationsDispatcher.Consistent router.dispatcher
  ordered : OperationsDispatcher.Ordered router.dispatcher
  signed : ∀ entry ∈ router.dispatcher.added, entry.op.sender = some entry.fromEntity
  recorded : router.outcomes.map Prod.fst = router.dispatcher.dispatched.map Dispatch.entry
  conserved : router.held = router.returned.map Prod.fst ++ router.suspendedQueue
  drained : router.isSuspended = false → router.suspendedQueue = []
  readded : (router.returned.map Prod.snd).Sublist router.dispatcher.added
  remade : ∀ pair ∈ router.returned, Remade pair
  numbered : ∀ batch ∈ router.resumes,
    batch.Pairwise fun first second => first.2.sequence < second.2.sequence
  resolved : ∀ result ∈ router.outcomes, Resolved router.destroyed result.1 result.2

theorem Resolved.mono {before after : List String} (grown : before ⊆ after) {entry : Entry}
    {outcome : Outcome} (resolved : Resolved before entry outcome) :
    Resolved after entry outcome := by
  cases outcome with
  | gone => exact ⟨resolved.1, grown resolved.2⟩
  | delivered op target => exact resolved
  | heldBack held => exact resolved
  | unseen => exact resolved
  | noTarget => exact resolved

theorem requeue_origins (dispatcher : OperationsDispatcher RootOperation String)
    (queue : List Entry) : (requeue dispatcher queue).2.map Prod.fst = queue := by
  induction queue generalizing dispatcher with
  | nil => rfl
  | cons ope rest ih => simp [requeue, ih]

theorem requeue_spec {dispatcher : OperationsDispatcher RootOperation String}
    (consistent : dispatcher.Consistent) (ordered : dispatcher.Ordered) (queue : List Entry) :
    (requeue dispatcher queue).1.Consistent ∧ (requeue dispatcher queue).1.Ordered ∧
      (requeue dispatcher queue).1.dispatched = dispatcher.dispatched ∧
      (requeue dispatcher queue).1.added =
        dispatcher.added ++ (requeue dispatcher queue).2.map Prod.snd ∧
      (∀ pair ∈ (requeue dispatcher queue).2, Remade pair ∧
        dispatcher.sequence < pair.2.sequence) ∧
      (requeue dispatcher queue).2.Pairwise
        (fun first second => first.2.sequence < second.2.sequence) := by
  induction queue generalizing dispatcher with
  | nil => exact ⟨consistent, ordered, rfl, by simp [requeue], by simp [requeue], .nil⟩
  | cons ope rest ih =>
    obtain ⟨consistent', ordered', dispatched, added, remade, numbered⟩ :=
      ih (consistent.addOperationToQueue ope.op ope.fromEntity)
        (ordered.addOperationToQueue consistent ope.op ope.fromEntity)
    refine ⟨consistent', ordered', dispatched, ?_, ?_, ?_⟩
    · simp only [requeue, added, map_cons]
      simp [OperationsDispatcher.addOperationToQueue]
    · intro pair member
      rcases List.mem_cons.mp member with rfl | later
      · exact ⟨⟨rfl, rfl, rfl⟩, Nat.lt_succ_self _⟩
      · have number : dispatcher.sequence + 1 < pair.2.sequence := (remade pair later).2
        exact ⟨(remade pair later).1, by omega⟩
    · exact List.pairwise_cons.mpr ⟨fun pair later => (remade pair later).2, numbered⟩

namespace Bookkeeping

variable {router : WorldRouter}

theorem initial : Bookkeeping WorldRouter.initial where
  consistent := .initial
  ordered := .initial
  signed := by simp [WorldRouter.initial, OperationsDispatcher.initial]
  recorded := rfl
  conserved := rfl
  drained := fun _ => rfl
  readded := List.Sublist.refl _
  remade := by simp [WorldRouter.initial, returned]
  numbered := by simp [WorldRouter.initial]
  resolved := by simp [WorldRouter.initial]

section

variable (books : Bookkeeping router)

include books

theorem addOperationToQueue (op : RootOperation) (ent : String) :
    Bookkeeping (router.addOperationToQueue op ent) where
  consistent := books.consistent.addOperationToQueue op ent
  ordered := books.ordered.addOperationToQueue books.consistent op ent
  signed := by
    intro entry isAdded
    rcases List.mem_append.mp isAdded with old | new
    · exact books.signed entry old
    · rw [List.mem_singleton.mp new]
      rfl
  recorded := books.recorded
  conserved := books.conserved
  drained := books.drained
  readded := books.readded.trans (sublist_append_left _ _)
  remade := books.remade
  numbered := books.numbered
  resolved := books.resolved

theorem message (now : Int) (op : RootOperation) (fromEntity : String) (observers : List String) :
    Bookkeeping (router.message now op fromEntity observers) := by
  unfold WorldRouter.message
  split
  · split
    · exact run_invariant_of_step Bookkeeping
        (fun _ _ current => current.addOperationToQueue _ _) books observers
    · exact books
  · exact books.addOperationToQueue _ _

theorem resumeWorld : Bookkeeping router.resumeWorld := by
  obtain ⟨consistent, ordered, dispatched, added, remade, numbered⟩ :=
    requeue_spec books.consistent books.ordered router.suspendedQueue
  have returned : router.resumeWorld.returned =
      router.returned ++ (requeue router.dispatcher router.suspendedQueue).2 := by
    simp [WorldRouter.returned, WorldRouter.resumeWorld]
  constructor
  · exact consistent
  · exact ordered
  · intro entry isAdded
    have inBoth : entry ∈ router.dispatcher.added ++
        (requeue router.dispatcher router.suspendedQueue).2.map Prod.snd := added ▸ isAdded
    rcases List.mem_append.mp inBoth with old | new
    · exact books.signed entry old
    · obtain ⟨pair, member, rfl⟩ := List.mem_map.mp new
      rw [(remade pair member).1.op, (remade pair member).1.fromEntity]
      rfl
  · exact books.recorded.trans (congrArg (List.map Dispatch.entry) dispatched).symm
  · rw [returned, map_append, requeue_origins]
    simpa [WorldRouter.resumeWorld, WorldRouter.held] using books.conserved
  · exact fun _ => rfl
  · rw [returned, map_append]
    have grown := books.readded.append
      (List.Sublist.refl ((requeue router.dispatcher router.suspendedQueue).2.map Prod.snd))
    rw [← added] at grown
    exact grown
  · intro pair member
    rw [returned] at member
    rcases List.mem_append.mp member with old | new
    · exact books.remade pair old
    · exact (remade pair new).1
  · intro batch member
    rcases List.mem_append.mp member with old | new
    · exact books.numbered batch old
    · rw [List.mem_singleton.mp new]
      exact numbered
  · exact books.resolved

theorem setIsSuspended (suspended : Bool) : Bookkeeping (router.setIsSuspended suspended) := by
  unfold WorldRouter.setIsSuspended
  split
  · -- what `drained` asks of the state in between is not needed: resuming drains the queue
    next resumed =>
    have wasSuspended : router.isSuspended = true := by
      simp only [Bool.and_eq_true] at resumed
      exact resumed.2
    have same : WorldRouter.resumeWorld { router with isSuspended := suspended } =
        { router.resumeWorld with isSuspended := suspended } := rfl
    rw [same]
    have after := books.resumeWorld
    exact ⟨after.consistent, after.ordered, after.signed, after.recorded, after.conserved,
      fun _ => rfl, after.readded, after.remade, after.numbered, after.resolved⟩
  · next kept =>
    refine ⟨books.consistent, books.ordered, books.signed, books.recorded, books.conserved, ?_,
      books.readded, books.remade, books.numbered, books.resolved⟩
    intro running
    cases suspended with
    | true => cases running
    | false =>
      simp only [Bool.not_false, Bool.true_and, Bool.not_eq_true] at kept
      exact books.drained kept

theorem perform (now : Int) (effect : Effect) : Bookkeeping (router.perform now effect) := by
  cases effect with
  | message op fromEntity observers => exact books.message now op fromEntity observers
  | setIsSuspended suspended => exact books.setIsSuspended suspended
  | create id =>
    exact ⟨books.consistent, books.ordered, books.signed, books.recorded, books.conserved,
      books.drained, books.readded, books.remade, books.numbered, books.resolved⟩
  | destroy id =>
    refine ⟨books.consistent, books.ordered, books.signed, books.recorded, books.conserved,
      books.drained, books.readded, books.remade, books.numbered, ?_⟩
    intro result member
    exact (books.resolved result member).mono (subset_append_left _ _)

theorem sendResult (now : Int) (op : RootOperation) (ent : String)
    (result : RootOperation × List String) :
    Bookkeeping (WorldRouter.sendResult now op ent router result) := by
  unfold WorldRouter.sendResult
  split
  · exact books.message now _ _ _
  · split
    · exact books.message now _ _ _
    · exact books

end

theorem outcome_resolved (router : WorldRouter) (now : Int) (entry : Entry) :
    Resolved router.destroyed entry (router.outcome now entry) := by
  unfold outcome
  split
  · next none => exact .inl none
  · next target known =>
      split
      · next empty => exact .inr (empty ▸ known)
      · next nonempty =>
          split
          · next gone => exact ⟨gone.1 ▸ known, gone.1 ▸ gone.2⟩
          · split
            · next unseen =>
                intro same
                rw [known] at same
                exact unseen.1 (Option.some.inj same)
            · split
              · exact ⟨rfl, known, nonempty, rfl⟩
              · exact ⟨known, ⟨rfl, rfl, rfl, rfl, rfl, rfl⟩⟩

theorem isSuspended_of_heldBack {router : WorldRouter} {now : Int} {entry held : Entry}
    (isHeld : router.outcome now entry = .heldBack held) : router.isSuspended = true := by
  unfold outcome at isHeld
  split at isHeld
  · cases isHeld
  · split at isHeld
    · cases isHeld
    · split at isHeld
      · cases isHeld
      · split at isHeld
        · cases isHeld
        · split at isHeld
          · next suspended => exact suspended.1
          · cases isHeld

variable {caller : DispatchCaller} {now : Int} {entry : Entry}

section

variable (books : Bookkeeping router)

include books

theorem taken_resolved {outcome : Outcome} (resolved : Resolved router.destroyed entry outcome) :
    ∀ result ∈ (router.taken caller now entry outcome).outcomes,
      Resolved router.destroyed result.1 result.2 := by
  intro result member
  rcases List.mem_append.mp member with old | new
  · exact books.resolved result old
  · rw [List.mem_singleton.mp new]
    exact resolved

theorem taken_recorded (outcome : Outcome) :
    (router.taken caller now entry outcome).outcomes.map Prod.fst =
      (router.taken caller now entry outcome).dispatcher.dispatched.map Dispatch.entry := by
  simp only [WorldRouter.taken, map_append, books.recorded]
  simp [OperationsDispatcher.dispatchTop, OperationsDispatcher.addOperations]

section

variable (isTop : router.dispatcher.operationQueue.top? = some entry)
  (due : caller = .processUntil → OperationsDispatcher.isDue entry now = true)

include isTop due

theorem taken {outcome : Outcome}
    (resolved : Resolved router.destroyed entry outcome)
    (notHeld : ∀ held, outcome ≠ .heldBack held) :
    Bookkeeping (router.taken caller now entry outcome) where
  consistent := books.consistent.dispatchTop isTop due []
  ordered := books.ordered.dispatchTop books.consistent isTop caller now
  signed := books.signed
  recorded := books.taken_recorded outcome
  conserved := by
    have unchanged : (router.taken caller now entry outcome).held = router.held := by
      cases outcome with
      | heldBack held => exact absurd rfl (notHeld held)
      | delivered op target => simp [WorldRouter.held, WorldRouter.taken]
      | gone => simp [WorldRouter.held, WorldRouter.taken]
      | unseen => simp [WorldRouter.held, WorldRouter.taken]
      | noTarget => simp [WorldRouter.held, WorldRouter.taken]
    rw [unchanged]
    exact books.conserved
  drained := books.drained
  readded := books.readded
  remade := books.remade
  numbered := books.numbered
  resolved := books.taken_resolved resolved

theorem holdBack {held : Entry}
    (resolved : Resolved router.destroyed entry (.heldBack held))
    (suspended : router.isSuspended = true) (handling : Handling) :
    Bookkeeping ((router.taken caller now entry (.heldBack held)).carryOut now entry handling
      (.heldBack held)) where
  consistent := books.consistent.dispatchTop isTop due []
  ordered := books.ordered.dispatchTop books.consistent isTop caller now
  signed := books.signed
  recorded := books.taken_recorded _
  conserved := by
    have grown : ((router.taken caller now entry (.heldBack held)).carryOut now entry handling
        (.heldBack held)).held = router.held ++ [held] := by
      simp [WorldRouter.held, WorldRouter.carryOut, WorldRouter.taken]
    rw [grown, books.conserved, append_assoc]
    rfl
  drained := by
    intro running
    have contradiction : router.isSuspended = false := running
    rw [suspended] at contradiction
    cases contradiction
  readded := books.readded
  remade := books.remade
  numbered := books.numbered
  resolved := @taken_resolved router caller now entry books _ resolved

end

end

theorem nextEntry_spec {router : WorldRouter}
    (isNext : router.nextEntry caller now = some entry) :
    router.dispatcher.operationQueue.top? = some entry ∧
      (caller = .processUntil → OperationsDispatcher.isDue entry now = true) := by
  unfold nextEntry at isNext
  split at isNext
  · cases isNext
  · next top isTop =>
      split at isNext
      · cases isNext
      · next notLate =>
          obtain rfl := Option.some.inj isNext
          refine ⟨isTop, ?_⟩
          intro byProcessUntil
          rw [not_and, Bool.not_eq_false] at notLate
          exact notLate byProcessUntil

theorem dispatchEntry (books : Bookkeeping router)
    (isNext : router.nextEntry caller now = some entry) (handling : Handling) :
    Bookkeeping (router.dispatchEntry caller now entry handling) := by
  obtain ⟨isTop, due⟩ := nextEntry_spec isNext
  have resolved := outcome_resolved router now entry
  unfold WorldRouter.dispatchEntry
  cases found : router.outcome now entry with
  | heldBack held =>
    rw [found] at resolved
    exact books.holdBack isTop due resolved (isSuspended_of_heldBack found) handling
  | delivered op target =>
    rw [found] at resolved
    have start := books.taken isTop due resolved (by simp)
    have handled := run_invariant_of_step Bookkeeping
      (fun _ effect current => current.perform now effect) start handling.effects
    exact run_invariant_of_step Bookkeeping
      (fun _ result current => current.sendResult now op target result) handled handling.res
  | gone =>
    rw [found] at resolved
    exact books.taken isTop due resolved (by simp)
  | unseen =>
    rw [found] at resolved
    have start := books.taken isTop due resolved (by simp)
    simp only [carryOut]
    split
    · exact start
    · exact start.message now _ _ _
  | noTarget =>
    rw [found] at resolved
    exact books.taken isTop due resolved (by simp)

theorem act (books : Bookkeeping router) (action : RouterAction) :
    Bookkeeping (router.act action) := by
  cases action with
  | perform now effect => exact books.perform now effect
  | dispatch caller now handling =>
    simp only [WorldRouter.act]
    split
    · exact books
    · next entry isNext => exact books.dispatchEntry isNext handling

end Bookkeeping

/-! ## Ticks that come back as they were -/

/-- A tick held back: its entry, and the suspended one. -/
def holdsBack (router : WorldRouter) : RouterAction → Option (Entry × Entry)
  | .dispatch caller now _ =>
    match router.nextEntry caller now with
    | none => none
    | some entry =>
      match router.outcome now entry with
      | .heldBack held => some (entry, held)
      | _ => none
  | .perform _ _ => none

/-- Sent by its target, and not due before others. -/
def HoldsOwnTicks (router : WorldRouter) (action : RouterAction) : Prop :=
  ∀ pair ∈ router.holdsBack action, pair.1.fromEntity = pair.2.fromEntity ∧
    ∀ other ∈ router.suspendedQueue, other.timeForDispatch ≤ pair.2.timeForDispatch

instance (router : WorldRouter) (action : RouterAction) : Decidable (router.HoldsOwnTicks action) :=
  inferInstanceAs (Decidable (∀ pair ∈ router.holdsBack action,
    pair.1.fromEntity = pair.2.fromEntity ∧
      ∀ other ∈ router.suspendedQueue, other.timeForDispatch ≤ pair.2.timeForDispatch))

/-- Ticks of targets, in order. -/
structure OwnTicks (queue : List Entry) : Prop where
  own : ∀ entry ∈ queue, entry.op.sender = some entry.fromEntity
  inOrder : queue.Pairwise fun first second => first.timeForDispatch ≤ second.timeForDispatch

/-- Suspended ticks were sent by their targets. -/
structure OwnTicksOnly (router : WorldRouter) : Prop where
  suspended : OwnTicks router.suspendedQueue
  resumed : ∀ batch ∈ router.resumes, OwnTicks (batch.map Prod.fst)

/-- Delivered, held back again, or without target. -/
def Redelivered (destroyed : List String) (held : Entry) : Outcome → Prop
  | .delivered op target => target = held.fromEntity ∧ op.SameBut held.op
  | .heldBack again => again.op = held.op ∧ again.fromEntity = held.fromEntity
  | .gone => held.fromEntity ∈ destroyed
  | .unseen => False
  | .noTarget => False

/-- All held back is added again once, in order. -/
structure Transparent (router : WorldRouter) : Prop where
  conserved : router.held = router.returned.map Prod.fst ++ router.suspendedQueue
  drained : router.isSuspended = false → router.suspendedQueue = []
  same : ∀ pair ∈ router.returned, pair.2.op = pair.1.op
  distinct : (router.returned.map fun pair => pair.2.sequence).Nodup
  once : ∀ pair ∈ router.returned,
    pair.2 ∈ router.outcomes.map Prod.fst ++ router.dispatcher.operationQueue.entries ∧
      ((router.outcomes.map Prod.fst ++ router.dispatcher.operationQueue.entries).map
        OpQueEntry.sequence).Nodup
  delivered : ∀ pair ∈ router.returned, ∀ outcome, (pair.2, outcome) ∈ router.outcomes →
    Redelivered router.destroyed pair.1 outcome
  inOrder : ∀ batch ∈ router.resumes, batch.Pairwise fun first second =>
    ∀ earlier outcome later, router.outcomes = earlier ++ (second.2, outcome) :: later →
      first.2 ∈ earlier.map Prod.fst

namespace OwnTicksOnly

variable {router : WorldRouter}

theorem initial : OwnTicksOnly WorldRouter.initial where
  suspended := ⟨by simp [WorldRouter.initial], .nil⟩
  resumed := by simp [WorldRouter.initial]

section

variable (own : OwnTicksOnly router)

include own

theorem addOperationToQueue (op : RootOperation) (ent : String) :
    OwnTicksOnly (router.addOperationToQueue op ent) :=
  ⟨own.suspended, own.resumed⟩

theorem message (now : Int) (op : RootOperation) (fromEntity : String) (observers : List String) :
    OwnTicksOnly (router.message now op fromEntity observers) := by
  unfold WorldRouter.message
  split
  · split
    · exact run_invariant_of_step OwnTicksOnly
        (fun _ _ current => current.addOperationToQueue _ _) own observers
    · exact own
  · exact own.addOperationToQueue _ _

theorem setIsSuspended (suspended : Bool) : OwnTicksOnly (router.setIsSuspended suspended) := by
  unfold WorldRouter.setIsSuspended
  split
  · constructor
    · exact ⟨by simp [resumeWorld], .nil⟩
    · intro batch member
      rcases List.mem_append.mp member with old | new
      · exact own.resumed batch old
      · rw [List.mem_singleton.mp new, requeue_origins]
        exact own.suspended
  · exact ⟨own.suspended, own.resumed⟩

theorem perform (now : Int) (effect : Effect) : OwnTicksOnly (router.perform now effect) := by
  cases effect with
  | message op fromEntity observers => exact own.message now op fromEntity observers
  | setIsSuspended suspended => exact own.setIsSuspended suspended
  | create id => exact ⟨own.suspended, own.resumed⟩
  | destroy id => exact ⟨own.suspended, own.resumed⟩

theorem sendResult (now : Int) (op : RootOperation) (ent : String)
    (result : RootOperation × List String) :
    OwnTicksOnly (WorldRouter.sendResult now op ent router result) := by
  unfold WorldRouter.sendResult
  split
  · exact own.message now _ _ _
  · split
    · exact own.message now _ _ _
    · exact own

end

variable {caller : DispatchCaller} {now : Int} {entry : Entry}

section

variable (own : OwnTicksOnly router) (books : Bookkeeping router)

include own books

theorem holdBack (isTop : router.dispatcher.operationQueue.top? = some entry) {held : Entry}
    (resolved : Resolved router.destroyed entry (.heldBack held))
    (sentByTarget : entry.fromEntity = held.fromEntity)
    (notEarlier : ∀ other ∈ router.suspendedQueue, other.timeForDispatch ≤ held.timeForDispatch) :
    OwnTicks (router.suspendedQueue ++ [held]) := by
  have queued : entry ∈ router.dispatcher.operationQueue.entries := by
    rw [PriorityQueue.entries_of_top? isTop]
    exact mem_cons_self
  have isAdded : entry ∈ router.dispatcher.added :=
    books.consistent.conserved.subset (mem_append_right _ queued)
  constructor
  · intro other member
    rcases List.mem_append.mp member with old | new
    · exact own.suspended.own other old
    · rw [List.mem_singleton.mp new, resolved.1, ← sentByTarget]
      exact books.signed entry isAdded
  · rw [pairwise_append]
    refine ⟨own.suspended.inOrder, pairwise_singleton _ _, ?_⟩
    intro other old last new
    rw [List.mem_singleton.mp new]
    exact notEarlier other old

theorem dispatchEntry {handling : Handling} (isNext : router.nextEntry caller now = some entry)
    (guarded : router.HoldsOwnTicks (.dispatch caller now handling)) :
    OwnTicksOnly (router.dispatchEntry caller now entry handling) := by
  have start : ∀ outcome, OwnTicksOnly (router.taken caller now entry outcome) :=
    fun _ => ⟨own.suspended, own.resumed⟩
  unfold WorldRouter.dispatchEntry
  cases found : router.outcome now entry with
  | heldBack held =>
    have resolved := Bookkeeping.outcome_resolved router now entry
    rw [found] at resolved
    obtain ⟨sentByTarget, notEarlier⟩ :=
      guarded (entry, held) (by simp [holdsBack, isNext, found])
    have isTop := (Bookkeeping.nextEntry_spec isNext).1
    exact ⟨own.holdBack books isTop resolved sentByTarget notEarlier, own.resumed⟩
  | delivered op target =>
    have handled := run_invariant_of_step OwnTicksOnly
      (fun _ effect current => current.perform now effect) (start (.delivered op target))
      handling.effects
    exact run_invariant_of_step OwnTicksOnly
      (fun _ result current => current.sendResult now op target result) handled handling.res
  | gone => exact start _
  | unseen =>
    simp only [carryOut]
    split
    · exact start _
    · exact (start _).message now _ _ _
  | noTarget => exact start _

theorem act {action : RouterAction} (guarded : router.HoldsOwnTicks action) :
    OwnTicksOnly (router.act action) := by
  cases action with
  | perform now effect => exact own.perform now effect
  | dispatch caller now handling =>
    simp only [WorldRouter.act]
    split
    · exact own
    · next entry isNext => exact own.dispatchEntry books isNext guarded

end

end OwnTicksOnly

namespace Bookkeeping

variable {router : WorldRouter}

section

variable (books : Bookkeeping router)

include books

theorem held_spec {entry : Entry} (isHeld : entry ∈ router.held) :
    entry.op.target = some entry.fromEntity ∧ entry.fromEntity ≠ "" ∧
      entry.timeForDispatch = QueuedOperation.milliseconds String entry.op := by
  obtain ⟨⟨origin, outcome⟩, member, found⟩ := List.mem_filterMap.mp isHeld
  have resolved := books.resolved _ member
  cases outcome with
  | heldBack held =>
    obtain rfl := Option.some.inj found
    rw [resolved.1]
    exact ⟨resolved.2.1, resolved.2.2.1, by rw [← resolved.1]; exact resolved.2.2.2⟩
  | delivered op target => cases found
  | gone => cases found
  | unseen => cases found
  | noTarget => cases found

variable {pair : Entry × Entry}

theorem returned_held (isReturned : pair ∈ router.returned) : pair.1 ∈ router.held := by
  rw [books.conserved]
  exact mem_append_left _ (mem_map_of_mem isReturned)

theorem returned_added (isReturned : pair ∈ router.returned) : pair.2 ∈ router.dispatcher.added :=
  books.readded.subset (mem_map_of_mem isReturned)

section

variable (own : OwnTicksOnly router)

include own

section

variable (isReturned : pair ∈ router.returned)

include isReturned

theorem returned_same : pair.2.op = pair.1.op := by
  obtain ⟨batch, isBatch, member⟩ := List.mem_flatten.mp isReturned
  have sender := (own.resumed batch isBatch).own pair.1 (mem_map_of_mem member)
  rw [(books.remade pair isReturned).op]
  simp only [QueuedOperation.setFrom, ← sender]

theorem redelivered {outcome : Outcome}
    (isOutcome : (pair.2, outcome) ∈ router.outcomes) :
    Redelivered router.destroyed pair.1 outcome := by
  have resolved := books.resolved _ isOutcome
  have same := books.returned_same own isReturned
  have fromTarget := (books.remade pair isReturned).fromEntity
  obtain ⟨target, nonempty, _⟩ := books.held_spec (books.returned_held isReturned)
  cases outcome with
  | delivered op reached =>
    obtain ⟨named, sameBut⟩ := resolved
    rw [same, target] at named
    rw [same] at sameBut
    exact ⟨(Option.some.inj named).symm, sameBut⟩
  | heldBack again =>
    obtain ⟨sameOp, named, _⟩ := resolved
    rw [same, target] at named
    exact ⟨sameOp.trans same, (Option.some.inj named).symm⟩
  | gone =>
    have isDestroyed := resolved.2
    rwa [fromTarget] at isDestroyed
  | unseen =>
    apply resolved
    rw [same, fromTarget]
    exact target
  | noTarget =>
    rcases resolved with none | empty
    · rw [same, target] at none
      cases none
    · rw [same, target] at empty
      exact nonempty (Option.some.inj empty)

end

/-- They leave in the order they came. -/
theorem leaves_in_order {batch : List (Entry × Entry)}
    (isBatch : batch ∈ router.resumes) :
    batch.Pairwise fun first second =>
      ∀ earlier outcome later, router.outcomes = earlier ++ (second.2, outcome) :: later →
        first.2 ∈ earlier.map Prod.fst := by
  have times := List.pairwise_map.mp (own.resumed batch isBatch).inOrder
  have both := (books.numbered batch isBatch).and times
  have timeOf : ∀ pair ∈ batch, pair.2.timeForDispatch = pair.1.timeForDispatch := by
    intro pair member
    have isReturned : pair ∈ router.returned := List.mem_flatten.mpr ⟨batch, isBatch, member⟩
    rw [(books.remade pair isReturned).time]
    exact (books.held_spec (books.returned_held isReturned)).2.2.symm
  apply both.imp_of_mem
  intro first second isFirst isSecond pairOrder earlier outcome later split
  have names : router.dispatcher.dispatched.map Dispatch.entry =
      earlier.map Prod.fst ++ second.2 :: later.map Prod.fst := by
    rw [← books.recorded, split]
    simp
  obtain ⟨before, rest, whole, beforeNames, restNames⟩ := List.map_eq_append_iff.mp names
  obtain ⟨dispatch, after, rfl, isSecondEntry, _⟩ := List.map_eq_cons_iff.mp restNames
  rw [← beforeNames]
  apply books.ordered before dispatch after whole first.2
  · exact books.returned_added (List.mem_flatten.mpr ⟨batch, isBatch, isFirst⟩)
  · rw [isSecondEntry, timeOf first isFirst, timeOf second isSecond]
    exact pairOrder.2
  · rw [isSecondEntry]
    exact pairOrder.1

theorem transparent : Transparent router where
  conserved := books.conserved
  drained := books.drained
  same := fun _ isReturned => books.returned_same own isReturned
  distinct := by
    have numbers := (books.readded.map OpQueEntry.sequence).nodup books.consistent.added_nodup
    rwa [map_map] at numbers
  once := by
    intro pair isReturned
    have kept := books.consistent.conserved
    rw [← books.recorded] at kept
    exact ⟨kept.symm.subset (books.returned_added isReturned),
      (kept.map OpQueEntry.sequence).symm.nodup books.consistent.added_nodup⟩
  delivered := fun _ isReturned _ isOutcome => books.redelivered own isReturned isOutcome
  inOrder := fun _ isBatch => books.leaves_in_order own isBatch

end

end

end Bookkeeping

/-- Suspending and resuming loses and reorders no operation, as long as the ticks held back are the
entity's own and come in order. -/
theorem run_transparent (actions : List RouterAction)
    (guarded : Admissible act HoldsOwnTicks initial actions) :
    Transparent (run act initial actions) := by
  have both := run_invariant (fun router => Bookkeeping router ∧ OwnTicksOnly router)
    (fun _ action invariant holds => ⟨invariant.1.act action, invariant.2.act invariant.1 holds⟩)
    ⟨Bookkeeping.initial, OwnTicksOnly.initial⟩ guarded
  exact both.1.transparent both.2

/-- What is added waits or has one outcome. -/
structure NothingLost (router : WorldRouter) : Prop where
  conserved : (router.outcomes.map Prod.fst ++ router.dispatcher.operationQueue.entries).Perm
    router.dispatcher.added
  distinct : (router.dispatcher.added.map OpQueEntry.sequence).Nodup
  resolved : ∀ result ∈ router.outcomes, Resolved router.destroyed result.1 result.2
  held : router.held = router.returned.map Prod.fst ++ router.suspendedQueue
  drained : router.isSuspended = false → router.suspendedQueue = []
  readded : (router.returned.map Prod.snd).Sublist router.dispatcher.added

theorem run_nothingLost (actions : List RouterAction) :
    NothingLost (run act initial actions) := by
  have books := run_invariant_of_step Bookkeeping
    (fun _ action books => books.act action) Bookkeeping.initial actions
  refine ⟨?_, books.consistent.added_nodup, books.resolved, books.conserved, books.drained,
    books.readded⟩
  rw [books.recorded]
  exact books.consistent.conserved

/-- A tick from one entity to another. -/
def tickTo (fromEntity target : String) (serialno seconds : Int) : Effect :=
  .message
    { classNo := .tick, sender := none, target := some target, serialno := some serialno,
      refno := none, args := [.string "thirst"], seconds := some seconds, futureSeconds := none }
    fromEntity []

/-- Two ticks wait while the world is suspended. -/
def suspendedTicks (firstSender secondSender : String) : List RouterAction :=
  [.perform 0 (.create "1"), .perform 0 (.create "2"), .perform 0 (.setIsSuspended true),
    .perform 0 (tickTo firstSender "2" 7 3000), .perform 0 (tickTo secondSender "1" 8 4000),
    .dispatch .processUntil 5000000000 ⟨[], []⟩, .dispatch .processUntil 5000000000 ⟨[], []⟩,
    .perform 5000000000 (.setIsSuspended false),
    .dispatch .processUntil 6000000000 ⟨[], []⟩, .dispatch .processUntil 6000000000 ⟨[], []⟩]

theorem run_transparent_own_ticks :
    Admissible act HoldsOwnTicks initial (suspendedTicks "2" "1") ∧
      Transparent (run act initial (suspendedTicks "2" "1")) ∧
      (run act initial (suspendedTicks "2" "1")).returned.length = 2 := by
  have guarded : Admissible act HoldsOwnTicks initial (suspendedTicks "2" "1") := by
    decide +kernel
  exact ⟨guarded, run_transparent _ guarded, by decide +kernel⟩

/-- A tick of another comes back as the target's own. -/
theorem tick_to_another_not_transparent :
    ¬ Transparent (run act initial (suspendedTicks "1" "1")) := by
  intro transparent
  obtain ⟨pair, isReturned, changed⟩ : ∃ pair ∈
      (run act initial (suspendedTicks "1" "1")).returned,
        pair.1.op.sender = some "1" ∧ pair.2.op.sender = some "2" := by
    decide +kernel
  have same := transparent.same pair isReturned
  rw [same, changed.1] at changed
  exact absurd changed.2 (by decide)

end WorldRouter

end Cyphesis.Simulation
