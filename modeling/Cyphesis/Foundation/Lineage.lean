import Mathlib.Data.List.Basic

/-!
# Lineages

A tree given by the parent of each of its members.
-/

namespace Cyphesis.Foundation

universe u

variable {α : Type u} {parents : α → Option α}

/-- Members from a root down to a member. -/
inductive Lineage (parents : α → Option α) : α → List α → Prop
  | root {member : α} : parents member = none → Lineage parents member [member]
  | child {member parent : α} {line : List α} : parents member = some parent →
      Lineage parents parent line → Lineage parents member (line ++ [member])

/-- What lies strictly below a member. -/
inductive Descends (parents : α → Option α) (top : α) : α → Prop
  | child {member : α} : parents member = some top → Descends parents top member
  | further {member parent : α} : parents member = some parent → Descends parents top parent →
      Descends parents top member

theorem Lineage.unique {member : α} {line other : List α} (first : Lineage parents member line)
    (second : Lineage parents member other) : line = other := by
  induction first generalizing other with
  | root isRoot =>
    cases second with
    | root => rfl
    | child isParent => simp [isRoot] at isParent
  | child isParent _ ih =>
    cases second with
    | root isRoot => simp [isParent] at isRoot
    | child isOther above =>
      rw [isParent] at isOther
      obtain rfl := Option.some.inj isOther
      rw [ih above]

section Rank

variable {rank : α → Nat} (rises : ∀ member parent, parents member = some parent →
  rank parent < rank member)

include rises

theorem Lineage.exists_of_rank (member : α) : ∃ line, Lineage parents member line := by
  induction bound : rank member using Nat.strongRecOn generalizing member with
  | _ height ih =>
    cases isParent : parents member with
    | none => exact ⟨[member], .root isParent⟩
    | some parent =>
      have lower := rises member parent isParent
      rw [bound] at lower
      obtain ⟨line, above⟩ := ih (rank parent) lower parent rfl
      exact ⟨line ++ [member], .child isParent above⟩

theorem Lineage.rank_le {member other : α} {line : List α} (lineage : Lineage parents member line)
    (isMember : other ∈ line) : rank other ≤ rank member := by
  induction lineage with
  | root =>
    obtain rfl := List.mem_singleton.mp isMember
    exact Nat.le_refl _
  | child isParent _ ih =>
    rcases List.mem_append.mp isMember with isAbove | isSelf
    · exact Nat.le_trans (ih isAbove) (Nat.le_of_lt (rises _ _ isParent))
    · obtain rfl := List.mem_singleton.mp isSelf
      exact Nat.le_refl _

theorem Descends.rank_lt {top member : α} (below : Descends parents top member) :
    rank top < rank member := by
  induction below with
  | child isParent => exact rises _ _ isParent
  | further isParent _ ih => exact Nat.lt_trans ih (rises _ _ isParent)

end Rank

theorem Descends.through {top child member : α} (below : Descends parents child member)
    (isChild : parents child = some top) : Descends parents top member := by
  induction below with
  | child isParent => exact .further isParent (.child isChild)
  | further isParent _ ih => exact .further isParent ih

theorem Descends.through_child {top member : α} (below : Descends parents top member) :
    ∃ child, parents child = some top ∧ (member = child ∨ Descends parents child member) := by
  induction below with
  | @child member isParent => exact ⟨member, isParent, .inl rfl⟩
  | @further member parent isParent _ ih =>
    obtain ⟨child, isChild, rfl | below⟩ := ih
    · exact ⟨parent, isChild, .inr (.child isParent)⟩
    · exact ⟨child, isChild, .inr (.further isParent below)⟩

end Cyphesis.Foundation
