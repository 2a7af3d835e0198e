import Mathlib.Data.List.Sort

/-!
# Priority queues

A priority queue hands out a first element of a total order.
-/

namespace Cyphesis.Foundation

universe u

/-- A queue of elements sorted by `before`. -/
structure PriorityQueue {α : Type u} (before : α → α → Prop) where
  entries : List α
  sorted : entries.Pairwise before

namespace PriorityQueue

variable {α : Type u} {before : α → α → Prop}

/-- Queue without elements. -/
def empty : PriorityQueue before :=
  ⟨[], List.Pairwise.nil⟩

variable (queue : PriorityQueue before)

/-- The first element. -/
def top? : Option α :=
  queue.entries.head?

/-- Queue without its first element. -/
def pop : PriorityQueue before :=
  ⟨queue.entries.tail, queue.sorted.tail⟩

section

variable {queue} {first : α} (isTop : queue.top? = some first)

include isTop

theorem entries_of_top? : queue.entries = first :: queue.pop.entries :=
  (List.cons_head?_tail isTop).symm

theorem before_of_top? {other : α} (waits : other ∈ queue.pop.entries) :
    before first other := by
  have sorted := queue.sorted
  rw [entries_of_top? isTop] at sorted
  exact List.rel_of_pairwise_cons sorted waits

end

section Push

variable [DecidableRel before] [Std.Total before] [IsTrans α before]

/-- Queue with one more element. -/
def push (queue : PriorityQueue before) (entry : α) : PriorityQueue before :=
  ⟨queue.entries.orderedInsert before entry, queue.sorted.orderedInsert entry _⟩

theorem push_perm (queue : PriorityQueue before) (entry : α) :
    (queue.push entry).entries.Perm (entry :: queue.entries) :=
  List.perm_orderedInsert before entry queue.entries

end Push

end PriorityQueue

end Cyphesis.Foundation
