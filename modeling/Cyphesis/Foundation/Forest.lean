import Mathlib.Data.Finset.Card

/-!
# Going up in a forest

A forest is given by the parents of its nodes; a node is grounded when climbing from it ends.
`meets` searches among a node and its ancestors, with a bound on the way.
-/

namespace Cyphesis.Foundation

open Function Option Finset

universe u

variable {α : Type u} {parent : α → Option α} {root : α}

/-- Go up a number of steps. -/
def climb (parent : α → Option α) : Nat → α → Option α
  | 0, node => some node
  | steps + 1, node => (parent node).bind (climb parent steps)

/-- Going up from `start` leads to `target`. -/
def Reaches (parent : α → Option α) (start target : α) : Prop :=
  ∃ steps, climb parent steps start = some target

theorem Reaches.refl (parent : α → Option α) (node : α) : Reaches parent node node :=
  ⟨0, rfl⟩

theorem Reaches.of_parent {node above target : α} (isParent : parent node = some above)
    (reaches : Reaches parent above target) : Reaches parent node target := by
  obtain ⟨steps, climbs⟩ := reaches
  exact ⟨steps + 1, by simpa [climb, isParent] using climbs⟩

section

variable {start target : α} (reaches : Reaches parent start target) (different : start ≠ target)

include reaches different

theorem Reaches.parent_of_ne :
    ∃ above, parent start = some above ∧ Reaches parent above target := by
  obtain ⟨steps, climbs⟩ := reaches
  cases steps with
  | zero => exact absurd (Option.some.inj climbs) different
  | succ steps =>
    obtain ⟨above, isParent, rest⟩ := Option.bind_eq_some_iff.mp climbs
    exact ⟨above, isParent, steps, rest⟩

theorem Reaches.exists_child : ∃ child, parent child = some target := by
  obtain ⟨steps, climbs⟩ := reaches
  induction steps generalizing start with
  | zero => exact absurd (Option.some.inj climbs) different
  | succ steps ih =>
    obtain ⟨above, isParent, rest⟩ := Option.bind_eq_some_iff.mp climbs
    by_cases isTarget : above = target
    · exact ⟨start, isTarget ▸ isParent⟩
    · exact ih isTarget rest

end

/-- Going up from the node ends. -/
def Grounded (parent : α → Option α) (node : α) : Prop :=
  ∃ top, parent top = none ∧ Reaches parent node top

theorem Grounded.of_parent {node above : α} (grounded : Grounded parent above)
    (isParent : parent node = some above) : Grounded parent node := by
  obtain ⟨top, isTop, reaches⟩ := grounded
  exact ⟨top, isTop, reaches.of_parent isParent⟩

theorem climb_add (first second : Nat) (node : α) :
    climb parent (first + second) node = (climb parent first node).bind (climb parent second) := by
  induction first generalizing node with
  | zero => simp [climb]
  | succ first ih =>
    rw [Nat.succ_add, climb, climb, bind_assoc]
    congr 1
    funext above
    exact ih above

theorem Reaches.trans {start middle target : α} (first : Reaches parent start middle)
    (second : Reaches parent middle target) : Reaches parent start target := by
  obtain ⟨below, climbsFirst⟩ := first
  obtain ⟨above, climbsSecond⟩ := second
  refine ⟨below + above, ?_⟩
  rw [climb_add, climbsFirst, bind_some, climbsSecond]

theorem climb_eq_none_of_lt (isRoot : parent root = none) {node : α} {steps more : Nat}
    (climbs : climb parent steps node = some root) (longer : steps < more) :
    climb parent more node = none := by
  obtain ⟨extra, rfl⟩ := Nat.exists_eq_add_of_lt longer
  rw [Nat.add_assoc, climb_add, climbs]
  simp [climb, isRoot]

theorem Grounded.climb_ne_self {node : α} (grounded : Grounded parent node) {steps : Nat}
    (moved : 0 < steps) : climb parent steps node ≠ some node := by
  intro returns
  obtain ⟨top, isTop, height, climbs⟩ := grounded
  have further : climb parent (steps + height) node = some top := by
    rw [climb_add, returns, bind_some, climbs]
  rw [climb_eq_none_of_lt isTop climbs (by omega)] at further
  contradiction

theorem Grounded.not_reaches_of_parent {node above : α} (grounded : Grounded parent node)
    (isParent : parent node = some above) : ¬ Reaches parent above node := by
  rintro ⟨steps, climbs⟩
  refine grounded.climb_ne_self (Nat.succ_pos steps) ?_
  simpa [climb, isParent] using climbs

theorem Reaches.total {start first second : α} (toFirst : Reaches parent start first)
    (toSecond : Reaches parent start second) :
    Reaches parent first second ∨ Reaches parent second first := by
  obtain ⟨below, climbsFirst⟩ := toFirst
  obtain ⟨above, climbsSecond⟩ := toSecond
  rcases Nat.le_total below above with shorter | longer
  · left
    obtain ⟨rest, rfl⟩ := Nat.exists_eq_add_of_le shorter
    rw [climb_add, climbsFirst, bind_some] at climbsSecond
    exact ⟨rest, climbsSecond⟩
  · right
    obtain ⟨rest, rfl⟩ := Nat.exists_eq_add_of_le longer
    rw [climb_add, climbsSecond, bind_some] at climbsFirst
    exact ⟨rest, climbsFirst⟩

theorem Reaches.eq_of_root {target : α} (isRoot : parent root = none)
    (reaches : Reaches parent root target) : root = target := by
  by_contra different
  obtain ⟨above, isParent, _⟩ := reaches.parent_of_ne different
  rw [isRoot] at isParent
  contradiction

theorem Grounded.eq_of_reaches_sibling {above first second : α} (grounded : Grounded parent above)
    (isFirst : parent first = some above) (isSecond : parent second = some above)
    (reaches : Reaches parent first second) : first = second := by
  by_contra different
  obtain ⟨middle, isParent, further⟩ := reaches.parent_of_ne different
  rw [isFirst, Option.some.injEq] at isParent
  subst isParent
  exact (grounded.of_parent isSecond).not_reaches_of_parent isSecond further

theorem reaches_congr {changed : α → Option α} {start : α}
    (same : ∀ node, Reaches parent start node → changed node = parent node) (target : α) :
    Reaches changed start target ↔ Reaches parent start target := by
  have sameWay : ∀ steps, climb changed steps start = climb parent steps start := by
    intro steps
    induction steps generalizing start with
    | zero => rfl
    | succ steps ih =>
      rw [climb, climb, same start (Reaches.refl parent start)]
      cases isParent : parent start with
      | none => rfl
      | some above => exact ih fun node reaches => same node (reaches.of_parent isParent)
  simp only [Reaches, sameWay]

section Change

variable [DecidableEq α]

theorem climb_update_of_not_reaches {changed start : α} {newParent : Option α}
    (away : ¬ Reaches parent start changed) (steps : Nat) :
    climb (update parent changed newParent) steps start = climb parent steps start := by
  induction steps generalizing start with
  | zero => rfl
  | succ steps ih =>
    have different : start ≠ changed := by
      rintro rfl
      exact away (Reaches.refl parent start)
    rw [climb, climb, update_of_ne different]
    cases isParent : parent start with
    | none => rfl
    | some above =>
      refine ih ?_
      intro reaches
      exact away (reaches.of_parent isParent)

theorem Grounded.hang {moved above : α} (aboveGrounded : Grounded parent above)
    (notBelow : ¬ Reaches parent above moved) {node : α} (grounded : Grounded parent node) :
    Grounded (update parent moved (some above)) node := by
  have newAbove : Grounded (update parent moved (some above)) above := by
    obtain ⟨top, isTop, height, up⟩ := aboveGrounded
    have different : top ≠ moved := by
      rintro rfl
      exact notBelow ⟨height, up⟩
    refine ⟨top, ?_, height, (climb_update_of_not_reaches notBelow height).trans up⟩
    rw [update_of_ne different, isTop]
  obtain ⟨top, isTop, steps, climbs⟩ := grounded
  induction steps generalizing node with
  | zero =>
    obtain rfl : node = top := Option.some.inj climbs
    by_cases isMoved : node = moved
    · subst isMoved
      exact newAbove.of_parent (update_self ..)
    · refine ⟨node, ?_, Reaches.refl _ node⟩
      rw [update_of_ne isMoved, isTop]
  | succ steps ih =>
    by_cases isMoved : node = moved
    · subst isMoved
      exact newAbove.of_parent (update_self ..)
    · obtain ⟨next, isParent, rest⟩ := Option.bind_eq_some_iff.mp climbs
      refine (ih rest).of_parent (?_ : _ = some next)
      rw [update_of_ne isMoved, isParent]

theorem Grounded.cut {leaf node : α} (grounded : Grounded parent node) :
    Grounded (update parent leaf none) node := by
  obtain ⟨top, isTop, steps, climbs⟩ := grounded
  induction steps generalizing node with
  | zero =>
    obtain rfl : node = top := Option.some.inj climbs
    refine ⟨node, ?_, Reaches.refl _ node⟩
    by_cases isLeaf : node = leaf
    · rw [isLeaf, update_self]
    · rw [update_of_ne isLeaf, isTop]
  | succ steps ih =>
    by_cases isLeaf : node = leaf
    · refine ⟨node, ?_, Reaches.refl _ node⟩
      rw [isLeaf, update_self]
    · obtain ⟨next, isParent, rest⟩ := Option.bind_eq_some_iff.mp climbs
      refine (ih rest).of_parent (?_ : _ = some next)
      rw [update_of_ne isLeaf, isParent]

end Change

/-- The nodes on the way are different. -/
theorem climb_lt_card (isRoot : parent root = none) {nodes : Finset α} {start : α}
    (isNode : start ∈ nodes)
    (closed : ∀ node ∈ nodes, ∀ above, parent node = some above → above ∈ nodes) {steps : Nat}
    (climbs : climb parent steps start = some root) : steps < nodes.card := by
  have onWay : ∀ taken ≤ steps, ∃ node ∈ nodes, climb parent taken start = some node := by
    intro taken within
    induction taken with
    | zero => exact ⟨start, isNode, rfl⟩
    | succ taken ih =>
      obtain ⟨node, member, here⟩ := ih (by omega)
      obtain ⟨rest, rfl⟩ := Nat.exists_eq_add_of_lt within
      have left : climb parent (rest + 1) node = some root := by
        rw [show taken + rest + 1 = taken + (rest + 1) by omega, climb_add, here] at climbs
        exact climbs
      obtain ⟨above, isParent, _⟩ := Option.bind_eq_some_iff.mp left
      refine ⟨above, closed node member above isParent, ?_⟩
      rw [climb_add taken 1, here]
      simp [climb, isParent]
  have : Nonempty α := ⟨start⟩
  choose! nodeAt member here using onWay
  have injective : Set.InjOn nodeAt (Finset.range (steps + 1)) := by
    -- Meeting a node again would lead to the root on a shorter way.
    have noReturn : ∀ first second, first < second → second ≤ steps →
        nodeAt first ≠ nodeAt second := by
      intro first second earlier within same
      have second' := here second within
      have first' := here first (by omega)
      have short : climb parent (first + (steps - second)) start = some root := by
        rw [climb_add, first', same, ← second', ← climb_add,
          show second + (steps - second) = steps by omega]
        exact climbs
      have long := climb_eq_none_of_lt isRoot short (show _ < steps by omega)
      rw [climbs] at long
      contradiction
    intro first firstMember second secondMember same
    have firstBound : first ≤ steps := by simpa [Nat.lt_succ_iff] using firstMember
    have secondBound : second ≤ steps := by simpa [Nat.lt_succ_iff] using secondMember
    rcases Nat.lt_trichotomy first second with less | equal | greater
    · exact absurd same (noReturn first second less secondBound)
    · exact equal
    · exact absurd same.symm (noReturn second first greater firstBound)
  have bound := card_le_card_of_injOn nodeAt (by
      intro taken member'
      have within : taken ≤ steps := by simpa [Nat.lt_succ_iff] using member'
      exact member taken within)
    injective
  rw [card_range] at bound
  exact bound

section Search

variable [DecidableEq α]

/-- Among the first nodes from `start`? -/
def meets (parent : α → Option α) : Nat → α → α → Bool
  | 0, _, _ => false
  | bound + 1, start, target =>
    start = target ||
      match parent start with
      | none => false
      | some above => meets parent bound above target

theorem reaches_of_meets {bound : Nat} {start target : α}
    (found : meets parent bound start target = true) : Reaches parent start target := by
  induction bound generalizing start with
  | zero => simp [meets] at found
  | succ bound ih =>
    simp only [meets, Bool.or_eq_true, decide_eq_true_eq] at found
    rcases found with rfl | found
    · exact Reaches.refl parent start
    · cases isParent : parent start with
      | none => simp [isParent] at found
      | some above =>
        rw [isParent] at found
        exact (ih found).of_parent isParent

theorem not_reaches_of_not_meets (isRoot : parent root = none) {nodes : Finset α} {start : α}
    (isNode : start ∈ nodes)
    (closed : ∀ node ∈ nodes, ∀ above, parent node = some above → above ∈ nodes)
    (rooted : Reaches parent start root) {target : α}
    (missing : meets parent nodes.card start target = false) : ¬ Reaches parent start target := by
  obtain ⟨steps, climbs⟩ := rooted
  have enough := climb_lt_card isRoot isNode closed climbs
  generalize nodes.card = bound at missing enough
  clear isNode
  induction bound generalizing start steps with
  | zero => omega
  | succ bound ih =>
    simp only [meets, Bool.or_eq_false_iff, decide_eq_false_iff_not] at missing
    obtain ⟨different, missing⟩ := missing
    intro reaches
    obtain ⟨above, isParent, above'⟩ := reaches.parent_of_ne different
    rw [isParent] at missing
    cases steps with
    | zero =>
      obtain rfl : start = root := Option.some.inj climbs
      rw [isRoot] at isParent
      contradiction
    | succ steps =>
      obtain ⟨next, isNext, rest⟩ := Option.bind_eq_some_iff.mp climbs
      obtain rfl : above = next := Option.some.inj (isParent.symm.trans isNext)
      exact ih steps rest missing (by omega) above'

end Search

end Cyphesis.Foundation
