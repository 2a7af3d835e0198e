import Mathlib.Algebra.Group.Int.Defs
import Mathlib.Algebra.Group.Nat.Defs
import Cyphesis.Foundation.PriorityQueue
import Cyphesis.Foundation.Run

/-!
# The queue of operations

`OperationsDispatcher` keeps operations until their time has come, and hands them to a processor,
which may add others. Entries are compared by time and sequence number; the seconds of an operation
do not change. The time of an operation is its seconds cut to whole milliseconds. Durations are in
nanoseconds, and a time is made one in 64 bits before the two are compared.
-/

namespace Cyphesis.Common

open Cyphesis.Foundation List

universe u v

/-- What the dispatcher asks of an operation. -/
class QueuedOperation (Op : Type u) (Entity : Type v) where
  /-- The seconds as whole milliseconds. -/
  milliseconds : Op → Int
  /-- `op->setFrom(ent->getId())`. -/
  setFrom : Op → Entity → Op

/-- An operation, who it is from, and its place. -/
structure OpQueEntry (Op : Type u) (Entity : Type v) where
  op : Op
  fromEntity : Entity
  timeForDispatch : Int
  sequence : Nat
  deriving DecidableEq

namespace OpQueEntry

variable {Op : Type u} {Entity : Type v}

variable (left right : OpQueEntry Op Entity)

/-- `OpQueEntry::operator>`. -/
def greater : Bool :=
  if left.timeForDispatch = right.timeForDispatch then left.sequence > right.sequence
  else left.timeForDispatch > right.timeForDispatch

/-- Order of `std::greater`. -/
def Before : Prop :=
  left.greater right = false

instance : DecidableRel (@Before Op Entity) :=
  fun left right => inferInstanceAs (Decidable (left.greater right = false))

theorem before_iff {left right : OpQueEntry Op Entity} :
    left.Before right ↔ left.timeForDispatch < right.timeForDispatch ∨
      left.timeForDispatch = right.timeForDispatch ∧ left.sequence ≤ right.sequence := by
  unfold Before greater
  split
  · simp only [decide_eq_false_iff_not]
    omega
  · simp only [decide_eq_false_iff_not]
    omega

instance : Std.Total (@Before Op Entity) where
  total left right := by
    simp only [before_iff]
    omega

instance : IsTrans (OpQueEntry Op Entity) Before where
  trans left middle right := by
    simp only [before_iff]
    omega

end OpQueEntry

/-- What takes from the queue. -/
inductive DispatchCaller where
  | dispatchNextOp
  | processUntil
  deriving DecidableEq

/-- A call of the processor. -/
structure Dispatch (Op : Type u) (Entity : Type v) where
  entry : OpQueEntry Op Entity
  now : Int
  waiting : List (OpQueEntry Op Entity)
  caller : DispatchCaller

/-- The last two fields are history. -/
structure OperationsDispatcher (Op : Type u) (Entity : Type v) where
  operationQueue : PriorityQueue (@OpQueEntry.Before Op Entity)
  operationQueuesDirty : Bool
  sequence : Nat
  added : List (OpQueEntry Op Entity)
  dispatched : List (Dispatch Op Entity)

namespace OperationsDispatcher

variable {Op : Type u} {Entity : Type v} [QueuedOperation Op Entity]

/-- The dispatcher as it is constructed. -/
def initial : OperationsDispatcher Op Entity :=
  { operationQueue := .empty
    operationQueuesDirty := false
    sequence := 0
    added := []
    dispatched := [] }

/-- The entry `addOperationToQueue` makes. -/
def newEntry (dispatcher : OperationsDispatcher Op Entity) (op : Op) (ent : Entity) :
    OpQueEntry Op Entity :=
  { op := QueuedOperation.setFrom op ent
    fromEntity := ent
    timeForDispatch := QueuedOperation.milliseconds Entity (QueuedOperation.setFrom op ent)
    sequence := dispatcher.sequence + 1 }

/-- Sequence number of the first entry. -/
def topSequenceNr (queue : PriorityQueue (@OpQueEntry.Before Op Entity)) : Nat :=
  (queue.top?.map OpQueEntry.sequence).getD 0

/-- `addOperationToQueue`, with the dirty flag. -/
def addOperationToQueue (dispatcher : OperationsDispatcher Op Entity) (op : Op) (ent : Entity) :
    OperationsDispatcher Op Entity :=
  let entry := dispatcher.newEntry op ent
  let queue := dispatcher.operationQueue.push entry
  { dispatcher with
    operationQueue := queue
    operationQueuesDirty :=
      dispatcher.operationQueuesDirty ||
        topSequenceNr dispatcher.operationQueue != topSequenceNr queue
    sequence := dispatcher.sequence + 1
    added := dispatcher.added ++ [entry] }

/-- Add what a handler sends. -/
def addOperations (dispatcher : OperationsDispatcher Op Entity) (ops : List (Op × Entity)) :
    OperationsDispatcher Op Entity :=
  ops.foldl (fun current op => current.addOperationToQueue op.1 op.2) dispatcher

/-- Pop the first entry and dispatch it. -/
def dispatchTop (dispatcher : OperationsDispatcher Op Entity) (entry : OpQueEntry Op Entity)
    (caller : DispatchCaller) (now : Int) (handled : List (Op × Entity)) :
    OperationsDispatcher Op Entity :=
  let queue := dispatcher.operationQueue.pop
  addOperations
    { dispatcher with
      operationQueue := queue
      dispatched := dispatcher.dispatched ++ [⟨entry, now, queue.entries, caller⟩] }
    handled

/-- `dispatchNextOp`, at the time `now`. -/
def dispatchNextOp (dispatcher : OperationsDispatcher Op Entity) (now : Int)
    (handled : List (Op × Entity)) : OperationsDispatcher Op Entity :=
  match dispatcher.operationQueue.top? with
  | none => dispatcher
  | some entry => dispatcher.dispatchTop entry .dispatchNextOp now handled

/-- Milliseconds as the 64-bit count of nanoseconds that a `steady_clock::duration` holds. -/
def nanoseconds (milliseconds : Int) : Int :=
  (milliseconds * 1000000).bmod (2 ^ 64)

/-- The nanoseconds of a time fit into 64 bits, which they do for some 292 years either way. -/
def InRange (milliseconds : Int) : Prop :=
  -(2 ^ 63) ≤ milliseconds * 1000000 ∧ milliseconds * 1000000 < 2 ^ 63

instance (milliseconds : Int) : Decidable (InRange milliseconds) :=
  inferInstanceAs (Decidable (_ ∧ _))

theorem nanoseconds_of_inRange {milliseconds : Int} (inRange : InRange milliseconds) :
    nanoseconds milliseconds = milliseconds * 1000000 :=
  Int.bmod_eq_of_le inRange.1 inRange.2

/-- `m_operationQueue.top().time_for_dispatch <= duration`. -/
def isDue (entry : OpQueEntry Op Entity) (duration : Int) : Bool :=
  nanoseconds entry.timeForDispatch ≤ duration

/-- `processUntil`, given what the handler adds to the queue in each turn. -/
def processUntil (dispatcher : OperationsDispatcher Op Entity) (duration : Int)
    (handled : List (Op × Entity)) (later : List (List (Op × Entity))) :
    OperationsDispatcher Op Entity :=
  match dispatcher.operationQueue.top? with
  | none => dispatcher
  | some entry =>
    if isDue entry duration then
      let processed := dispatcher.dispatchTop entry .processUntil duration handled
      match later with
      | [] => processed
      | next :: rest => processed.processUntil duration next rest
    else dispatcher
termination_by structural later

/-- The calls a dispatcher receives. -/
inductive Call (Op : Type u) (Entity : Type v) where
  | addOperationToQueue (op : Op) (ent : Entity)
  | dispatchNextOp (now : Int) (handled : List (Op × Entity))
  | processUntil (duration : Int) (handled : List (Op × Entity)) (later : List (List (Op × Entity)))
  | markQueueAsClean

/-- Perform a call. -/
def perform (dispatcher : OperationsDispatcher Op Entity) :
    Call Op Entity → OperationsDispatcher Op Entity
  | .addOperationToQueue op ent => dispatcher.addOperationToQueue op ent
  | .dispatchNextOp now handled => dispatcher.dispatchNextOp now handled
  | .processUntil duration handled later => dispatcher.processUntil duration handled later
  | .markQueueAsClean => { dispatcher with operationQueuesDirty := false }

/-- None is lost, doubled, early or misplaced. -/
structure Consistent (dispatcher : OperationsDispatcher Op Entity) : Prop where
  conserved :
    (dispatcher.dispatched.map Dispatch.entry ++ dispatcher.operationQueue.entries).Perm
      dispatcher.added
  numbered : dispatcher.added.map OpQueEntry.sequence = List.range' 1 dispatcher.sequence
  first : ∀ dispatch ∈ dispatcher.dispatched, ∀ other ∈ dispatch.waiting,
    dispatch.entry.Before other
  inOrder : ∀ earlier dispatch later,
    dispatcher.dispatched = earlier ++ dispatch :: later →
      ∀ entry ∈ dispatcher.added,
        entry.timeForDispatch = dispatch.entry.timeForDispatch →
        entry.sequence < dispatch.entry.sequence → entry ∈ earlier.map Dispatch.entry
  inTime : ∀ dispatch ∈ dispatcher.dispatched, dispatch.caller = .processUntil →
    isDue dispatch.entry dispatch.now = true

namespace Consistent

variable {dispatcher : OperationsDispatcher Op Entity}

variable {entry : OpQueEntry Op Entity}

omit [QueuedOperation Op Entity] in
theorem sequence_le (consistent : Consistent dispatcher) (isAdded : entry ∈ dispatcher.added) :
    entry.sequence ≤ dispatcher.sequence := by
  have member : entry.sequence ∈ dispatcher.added.map OpQueEntry.sequence :=
    mem_map_of_mem isAdded
  rw [consistent.numbered, mem_range'_1] at member
  omega

omit [QueuedOperation Op Entity] in
theorem added_nodup (consistent : Consistent dispatcher) :
    (dispatcher.added.map OpQueEntry.sequence).Nodup := by
  rw [consistent.numbered]
  exact nodup_range'

omit [QueuedOperation Op Entity] in
theorem dispatched_added (consistent : Consistent dispatcher) {dispatch : Dispatch Op Entity}
    (isDispatched : dispatch ∈ dispatcher.dispatched) : dispatch.entry ∈ dispatcher.added :=
  consistent.conserved.subset (mem_append_left _ (mem_map_of_mem isDispatched))

omit [QueuedOperation Op Entity] in
theorem initial : Consistent (OperationsDispatcher.initial : OperationsDispatcher Op Entity) where
  conserved := List.Perm.refl _
  numbered := rfl
  first := by
    intro dispatch isDispatched
    cases isDispatched
  inOrder := by
    intro earlier dispatch later split
    simp [OperationsDispatcher.initial] at split
  inTime := by
    intro dispatch isDispatched
    cases isDispatched

section

variable (consistent : Consistent dispatcher)

include consistent

theorem addOperationToQueue (op : Op) (ent : Entity) :
    Consistent (dispatcher.addOperationToQueue op ent) where
  conserved := by
    have pushed := (dispatcher.operationQueue.push_perm (dispatcher.newEntry op ent)).append_left
      (dispatcher.dispatched.map Dispatch.entry)
    have moved := pushed.trans perm_middle
    have counted := moved.trans (consistent.conserved.cons (dispatcher.newEntry op ent))
    exact counted.trans (perm_append_singleton _ dispatcher.added).symm
  numbered := by
    simp only [OperationsDispatcher.addOperationToQueue, map_append, consistent.numbered,
      range'_concat, newEntry, map_cons, map_nil]
    simp [Nat.add_comm]
  first := consistent.first
  inOrder := by
    intro earlier dispatch later split entry isAdded sameTime smaller
    rcases List.mem_append.mp isAdded with old | new
    · exact consistent.inOrder earlier dispatch later split entry old sameTime smaller
    · -- The new entry has the largest number of all.
      have isNew : entry = dispatcher.newEntry op ent := List.mem_singleton.mp new
      have dispatched : dispatch ∈ dispatcher.dispatched := by
        have whole : dispatcher.dispatched = earlier ++ dispatch :: later := split
        rw [whole]
        simp
      have bound := consistent.sequence_le (consistent.dispatched_added dispatched)
      have number : entry.sequence = dispatcher.sequence + 1 := by
        rw [isNew]
        rfl
      omega
  inTime := consistent.inTime

theorem addOperations (ops : List (Op × Entity)) : Consistent (dispatcher.addOperations ops) :=
  run_invariant_of_step Consistent
    (fun _ op state => state.addOperationToQueue op.1 op.2) consistent ops

theorem dispatchTop (isTop : dispatcher.operationQueue.top? = some entry) {caller : DispatchCaller}
    {now : Int} (due : caller = .processUntil → isDue entry now = true)
    (handled : List (Op × Entity)) :
    Consistent (dispatcher.dispatchTop entry caller now handled) := by
  have queue := PriorityQueue.entries_of_top? isTop
  refine addOperations ?_ handled
  refine ⟨?_, consistent.numbered, ?_, ?_, ?_⟩
  · have conserved := consistent.conserved
    rw [queue] at conserved
    simpa using conserved
  · intro dispatch isDispatched other waits
    rcases List.mem_append.mp isDispatched with old | new
    · exact consistent.first dispatch old other waits
    · obtain rfl := List.mem_singleton.mp new
      exact PriorityQueue.before_of_top? isTop waits
  · intro earlier dispatch later split other isAdded sameTime smaller
    rcases eq_nil_or_concat later with rfl | ⟨between, last, rfl⟩
    · -- This is the dispatch just made: whatever is older has left the queue.
      obtain ⟨rfl, single⟩ := append_inj' split rfl
      obtain rfl : (⟨entry, now, dispatcher.operationQueue.pop.entries, caller⟩ :
          Dispatch Op Entity) = dispatch := by simpa using single
      have either := consistent.conserved.symm.subset isAdded
      rcases List.mem_append.mp either with gone | waits
      · exact gone
      · rw [queue] at waits
        rcases List.mem_cons.mp waits with rfl | waits
        · exact absurd smaller (Nat.lt_irrefl _)
        · have order := PriorityQueue.before_of_top? isTop waits
          rw [OpQueEntry.before_iff] at order
          simp only at sameTime smaller
          omega
    · have shorter : dispatcher.dispatched = earlier ++ dispatch :: between := by
        have regrouped : dispatcher.dispatched ++
            [⟨entry, now, dispatcher.operationQueue.pop.entries, caller⟩] =
              (earlier ++ dispatch :: between) ++ [last] := by
          simpa using split
        exact (append_inj' regrouped rfl).1
      exact consistent.inOrder earlier dispatch between shorter other isAdded sameTime smaller
  · intro dispatch isDispatched byProcessUntil
    rcases List.mem_append.mp isDispatched with old | new
    · exact consistent.inTime dispatch old byProcessUntil
    · obtain rfl := List.mem_singleton.mp new
      exact due byProcessUntil

theorem dispatchNextOp (now : Int) (handled : List (Op × Entity)) :
    Consistent (dispatcher.dispatchNextOp now handled) := by
  unfold OperationsDispatcher.dispatchNextOp
  split
  · exact consistent
  · next entry isTop => exact consistent.dispatchTop isTop (by simp) handled

theorem processUntil (duration : Int) (handled : List (Op × Entity))
    (later : List (List (Op × Entity))) :
    Consistent (dispatcher.processUntil duration handled later) := by
  induction later generalizing dispatcher handled with
  | nil =>
    unfold OperationsDispatcher.processUntil
    split
    · exact consistent
    · next entry isTop =>
        split
        · next due => exact consistent.dispatchTop isTop (fun _ => due) handled
        · exact consistent
  | cons next rest ih =>
    unfold OperationsDispatcher.processUntil
    split
    · exact consistent
    · next entry isTop =>
        split
        · next due => exact ih (consistent.dispatchTop isTop (fun _ => due) handled) next
        · exact consistent

theorem perform (call : Call Op Entity) : Consistent (dispatcher.perform call) := by
  cases call with
  | addOperationToQueue op ent => exact consistent.addOperationToQueue op ent
  | dispatchNextOp now handled => exact consistent.dispatchNextOp now handled
  | processUntil duration handled later => exact consistent.processUntil duration handled later
  | markQueueAsClean =>
    exact ⟨consistent.conserved, consistent.numbered, consistent.first, consistent.inOrder,
      consistent.inTime⟩

end

end Consistent

/-- Every operation added is dispatched once or still queued, each goes out before all that are not
later in the order, and `processUntil` dispatches none before its time unless that is out of
range. -/
theorem run_dispatches_in_order (calls : List (Call Op Entity)) :
    let final := run perform (initial : OperationsDispatcher Op Entity) calls
    (final.dispatched.map Dispatch.entry ++ final.operationQueue.entries).Perm final.added ∧
      (final.added.map OpQueEntry.sequence).Nodup ∧
      (∀ dispatch ∈ final.dispatched, ∀ other ∈ dispatch.waiting, dispatch.entry.Before other) ∧
      (∀ earlier dispatch later, final.dispatched = earlier ++ dispatch :: later →
        ∀ entry ∈ final.added, entry.timeForDispatch = dispatch.entry.timeForDispatch →
          entry.sequence < dispatch.entry.sequence → entry ∈ earlier.map Dispatch.entry) ∧
      (∀ dispatch ∈ final.dispatched, dispatch.caller = .processUntil →
        InRange dispatch.entry.timeForDispatch →
          dispatch.entry.timeForDispatch * 1000000 ≤ dispatch.now) := by
  intro final
  have consistent : Consistent final :=
    run_invariant_of_step Consistent (fun _ call state => state.perform call)
      Consistent.initial calls
  refine ⟨consistent.conserved, consistent.added_nodup, consistent.first, consistent.inOrder, ?_⟩
  intro dispatch isDispatched byProcessUntil inRange
  have due := of_decide_eq_true (consistent.inTime dispatch isDispatched byProcessUntil)
  rw [nanoseconds_of_inRange inRange] at due
  exact due

/-- What is due no later goes first. -/
def Ordered (dispatcher : OperationsDispatcher Op Entity) : Prop :=
  ∀ earlier dispatch later, dispatcher.dispatched = earlier ++ dispatch :: later →
    ∀ entry ∈ dispatcher.added, entry.timeForDispatch ≤ dispatch.entry.timeForDispatch →
      entry.sequence < dispatch.entry.sequence → entry ∈ earlier.map Dispatch.entry

namespace Ordered

variable {dispatcher : OperationsDispatcher Op Entity}

omit [QueuedOperation Op Entity] in
theorem initial : Ordered (OperationsDispatcher.initial : OperationsDispatcher Op Entity) := by
  intro earlier dispatch later split
  simp [OperationsDispatcher.initial] at split

section

variable (ordered : Ordered dispatcher) (consistent : Consistent dispatcher)

include ordered consistent

theorem addOperationToQueue
    (op : Op) (ent : Entity) : Ordered (dispatcher.addOperationToQueue op ent) := by
  intro earlier dispatch later split entry isAdded notLater smaller
  rcases List.mem_append.mp isAdded with old | new
  · exact ordered earlier dispatch later split entry old notLater smaller
  · have dispatched : dispatch ∈ dispatcher.dispatched := by
      have whole : dispatcher.dispatched = earlier ++ dispatch :: later := split
      rw [whole]
      simp
    have bound := consistent.sequence_le (consistent.dispatched_added dispatched)
    have number : entry.sequence = dispatcher.sequence + 1 := by
      rw [List.mem_singleton.mp new]
      rfl
    omega

theorem dispatchTop
    (isTop : dispatcher.operationQueue.top? = some entry) (caller : DispatchCaller) (now : Int) :
    Ordered (dispatcher.dispatchTop entry caller now []) := by
  intro earlier dispatch later split other isAdded notLater smaller
  rcases eq_nil_or_concat later with rfl | ⟨between, last, rfl⟩
  · obtain ⟨rfl, single⟩ := append_inj' split rfl
    obtain rfl : (⟨entry, now, dispatcher.operationQueue.pop.entries, caller⟩ :
        Dispatch Op Entity) = dispatch := by simpa using single
    have either := consistent.conserved.symm.subset isAdded
    rcases List.mem_append.mp either with gone | waits
    · exact gone
    · rw [PriorityQueue.entries_of_top? isTop] at waits
      rcases List.mem_cons.mp waits with rfl | waits
      · exact absurd smaller (Nat.lt_irrefl _)
      · have order := PriorityQueue.before_of_top? isTop waits
        rw [OpQueEntry.before_iff] at order
        simp only at notLater smaller
        omega
  · have shorter : dispatcher.dispatched = earlier ++ dispatch :: between := by
      have regrouped : dispatcher.dispatched ++
          [⟨entry, now, dispatcher.operationQueue.pop.entries, caller⟩] =
            (earlier ++ dispatch :: between) ++ [last] := by
        rw [append_assoc, cons_append]
        rw [concat_eq_append] at split
        exact split
      exact (append_inj' regrouped rfl).1
    exact ordered earlier dispatch between shorter other isAdded notLater smaller

end

end Ordered

/-- The time until the next operation in nanoseconds, or ten minutes if there is none. -/
def timeUntilNextOp (dispatcher : OperationsDispatcher Op Entity) (currentTime : Int) : Int :=
  match dispatcher.operationQueue.top? with
  | none => 600 * 1000000000
  | some entry => (nanoseconds entry.timeForDispatch - currentTime).bmod (2 ^ 64)

/-- No queued operation is due, and there is a time to wait for the next one. -/
def Idle (dispatcher : OperationsDispatcher Op Entity) (currentTime : Int) : Prop :=
  0 < dispatcher.timeUntilNextOp currentTime ∧
    ∀ entry ∈ dispatcher.operationQueue.entries, isDue entry currentTime = false

omit [QueuedOperation Op Entity] in
theorem idle_of_top? {dispatcher : OperationsDispatcher Op Entity} {currentTime : Int}
    (started : 0 ≤ currentTime)
    (inRange : ∀ entry ∈ dispatcher.operationQueue.entries, InRange entry.timeForDispatch)
    (notDue : ∀ entry ∈ dispatcher.operationQueue.top?, isDue entry currentTime = false) :
    dispatcher.Idle currentTime := by
  unfold Idle timeUntilNextOp
  cases isTop : dispatcher.operationQueue.top? with
  | none =>
    rw [head?_eq_none_iff.mp isTop]
    exact ⟨by dsimp only; omega, by simp⟩
  | some first =>
    have late := of_decide_eq_false (notDue first isTop)
    have entries := PriorityQueue.entries_of_top? isTop
    have firstInRange : InRange first.timeForDispatch := inRange first (by simp [entries])
    rw [nanoseconds_of_inRange firstInRange] at late
    constructor
    · -- The first time is past the current one and in range, so the difference is, too.
      have fits := firstInRange.2
      have remaining :
          (first.timeForDispatch * 1000000 - currentTime).bmod (2 ^ 64) =
            first.timeForDispatch * 1000000 - currentTime :=
        Int.bmod_eq_of_le (by omega) (by omega)
      dsimp only
      rw [nanoseconds_of_inRange firstInRange, remaining]
      omega
    · intro entry member
      have entryInRange := inRange entry member
      rw [isDue, nanoseconds_of_inRange entryInRange]
      refine decide_eq_false ?_
      rw [entries] at member
      rcases mem_cons.mp member with rfl | waits
      · exact late
      · have order := OpQueEntry.before_iff.mp (PriorityQueue.before_of_top? isTop waits)
        omega

theorem addOperations_dispatched (dispatcher : OperationsDispatcher Op Entity)
    (ops : List (Op × Entity)) :
    (dispatcher.addOperations ops).dispatched = dispatcher.dispatched := by
  induction ops generalizing dispatcher with
  | nil => rfl
  | cons op rest ih => exact ih (dispatcher.addOperationToQueue op.1 op.2)

/-- It stops when nothing that is left is due, or when all its turns are spent. -/
theorem processUntil_drains (dispatcher : OperationsDispatcher Op Entity) (duration : Int)
    (handled : List (Op × Entity)) (later : List (List (Op × Entity))) (started : 0 ≤ duration)
    (inRange : ∀ entry ∈ (dispatcher.processUntil duration handled later).operationQueue.entries,
      InRange entry.timeForDispatch) :
    (dispatcher.processUntil duration handled later).Idle duration ∨
      (dispatcher.processUntil duration handled later).dispatched.length =
        dispatcher.dispatched.length + later.length + 1 := by
  induction later generalizing dispatcher handled with
  | nil =>
    unfold processUntil at inRange ⊢
    cases isTop : dispatcher.operationQueue.top? with
    | none =>
      rw [isTop] at inRange
      exact .inl (idle_of_top? started inRange (by simp [isTop]))
    | some first =>
      rw [isTop] at inRange
      dsimp only at inRange ⊢
      split
      · exact .inr (by simp [dispatchTop, addOperations_dispatched])
      next notDue =>
        rw [if_neg notDue] at inRange
        exact .inl (idle_of_top? started inRange (by simp_all))
  | cons next rest ih =>
    unfold processUntil at inRange ⊢
    cases isTop : dispatcher.operationQueue.top? with
    | none =>
      rw [isTop] at inRange
      exact .inl (idle_of_top? started inRange (by simp [isTop]))
    | some first =>
      rw [isTop] at inRange
      dsimp only at inRange ⊢
      split
      next due =>
        rw [if_pos due] at inRange
        refine (ih _ next inRange).imp_right fun count => ?_
        rw [count, dispatchTop, addOperations_dispatched, length_append, length_singleton,
          length_cons]
        omega
      next notDue =>
        rw [if_neg notDue] at inRange
        exact .inl (idle_of_top? started inRange (by simp_all))

/-- Operations that are but a time. -/
instance timeOperation : QueuedOperation Int Unit where
  milliseconds op := op
  setFrom op _ := op

/-- With an operation that is not due yet and one that is. -/
theorem processUntil_drains_two :
    let dispatcher := run perform (initial : OperationsDispatcher Int Unit)
      [.addOperationToQueue 5000 (), .addOperationToQueue 1000 ()]
    (dispatcher.processUntil 1000000000 [] [[]]).Idle 1000000000 ∨
      (dispatcher.processUntil 1000000000 [] [[]]).dispatched.length =
        dispatcher.dispatched.length + 1 + 1 :=
  @processUntil_drains Int Unit _ _ 1000000000 [] [[]] (by decide) (by decide)

/-- At time zero a later operation is dispatched. -/
theorem dispatchNextOp_before_time :
    ∃ dispatch ∈ (run perform (initial : OperationsDispatcher Int Unit)
        [.addOperationToQueue 5000 (), .dispatchNextOp 0 []]).dispatched,
      ¬ dispatch.entry.timeForDispatch * 1000000 ≤ dispatch.now :=
  ⟨⟨⟨5000, (), 5000, 1⟩, 0, [], .dispatchNextOp⟩, List.mem_singleton.mpr rfl, by decide⟩

end OperationsDispatcher

end Cyphesis.Common
