import Cyphesis.Ai.MemTree

/-!
# Messages that put entities elsewhere

A message about an entity is read after the place it names has been looked up or made.
-/

namespace Cyphesis.Ai

open Cyphesis.Foundation
open Cyphesis.Server (integerId)

namespace MemMap

variable {pending : Option Nat} {map before after : MemMap}

/-- The named place is not below it. -/
def Outside (map : MemMap) (ref : Nat) (loc : String) : Prop :=
  ∀ above, map.find (integerId loc) = some above → ¬Reaches map.parentOf above ref

variable {ent : EntityMessage} {ref : Nat} {first second third : MemMap} {loc : String} {id : Int}

section

variable (tree : Tree pending map)

include tree

theorem not_reaches_found {ref above : Nat}
    (isHeld : map.Held pending ref) (outside : map.Outside ref loc)
    (finds : Finds map after loc (some above)) : ¬Reaches after.parentOf above ref := by
  rw [funext finds.parent]
  rcases finds.loose above (finds.found above rfl) with known | ⟨isNew, isLoose⟩
  · exact outside above known
  · intro reaches
    have different : above ≠ ref := by
      rintro rfl
      exact absurd (tree.allocated above isHeld) (Nat.not_lt.mpr isNew)
    obtain ⟨next, isParent, -⟩ := reaches.parent_of_ne different
    rw [← finds.parent, isLoose.1] at isParent
    cases isParent

theorem Finds.held {id : String} {found : Option Nat}
    (finds : Finds map after id found) (isHeld : map.Held pending ref) :
    after.Held pending ref := by
  rcases isHeld with isRegistered | isPending
  · left
    unfold Registered
    rw [finds.objects ref (tree.allocated ref (.inl isRegistered))]
    exact finds.kept _ ref isRegistered
  · exact .inr isPending

theorem Tree.readLoc (isHeld : map.Held pending ref)
    (outside : loc ≠ map.getId ref → map.Outside ref loc) :
    Tree pending (map.readLoc ref loc) := by
  unfold MemMap.readLoc
  split
  · exact tree
  · rename_i notOwn
    split
    · exact tree
    · obtain ⟨finds, treeNow⟩ := getAdd_finds tree loc
      split
      · exact tree.of_same ⟨fun _ => rfl, fun _ => rfl, fun _ => rfl, fun _ => rfl, rfl⟩
      · rename_i added above result
        rw [result] at finds treeNow
        apply treeNow.hang (finds.held tree isHeld)
        · exact treeNow.held_of_find (finds.found above rfl)
        · exact not_reaches_found tree isHeld (outside notOwn) finds

end

/-- What reading a message leaves of the ids. -/
structure Reads (before after : MemMap) (id : Int) : Prop where
  ids : ∀ ref, ref < before.nextObject → (after.objects ref).id = (before.objects ref).id
  next : before.nextObject ≤ after.nextObject
  replaced : ∀ ref, after.find id = some ref → before.find id = some ref ∨ after.Loose ref

theorem Reads.refl (map : MemMap) (id : Int) : Reads map map id :=
  ⟨fun _ _ => rfl, Nat.le_refl _, fun _ => .inl⟩

theorem readLoc_reads (tree : Tree pending map) (ref : Nat)
    (different : loc ≠ map.getId ref → integerId loc ≠ id) :
    Reads map (map.readLoc ref loc) id := by
  unfold readLoc
  split
  · exact Reads.refl map id
  · rename_i notOwn
    split
    · exact Reads.refl map id
    · have finds := (getAdd_finds tree loc).1
      split
      · exact ⟨fun _ _ => rfl, Nat.le_refl _, fun _ => .inl⟩
      · rename_i added above result
        rw [result] at finds
        constructor
        · intro other isOld
          rw [id_hang]
          exact congrArg MemEntity.id (finds.objects other isOld)
        · rw [nextObject_hang]
          exact finds.next
        · intro other isFound
          rw [find_hang, finds.find id (different notOwn).symm] at isFound
          exact .inl isFound

theorem Reads.grows (before : Reads first second id) (after : Grows second third) :
    Reads first third id := by
  constructor
  · intro ref isOld
    rw [after.objects ref (Nat.lt_of_lt_of_le isOld before.next)]
    exact before.ids ref isOld
  · exact Nat.le_trans before.next after.next
  · intro ref isFound
    rcases after.loose id ref isFound with known | isLoose
    · apply (before.replaced ref known).imp_right
      intro isLoose
      exact ⟨(after.parent ref).trans isLoose.1, (after.contains ref).trans isLoose.2⟩
    · exact .inr isLoose

theorem Reads.of_same (before : Reads first second id) (same : SameTree second third) :
    Reads first third id := by
  constructor
  · intro ref isOld
    rw [same.id]
    exact before.ids ref isOld
  · rw [same.next]
    exact before.next
  · intro ref isFound
    rw [same.find] at isFound
    apply (before.replaced ref isFound).imp_right
    intro isLoose
    exact ⟨(same.parent ref).trans isLoose.1, (same.contains ref).trans isLoose.2⟩

/-- No entity is put into what it contains. -/
def Places (map : MemMap) (ref : Nat) (ent : EntityMessage) : Prop :=
  ∀ loc, ent.loc = some loc → loc ≠ map.getId ref →
    integerId loc ≠ (map.objects ref).id ∧ map.Outside ref loc

section

variable (tree : Tree pending map) (isHeld : map.Held pending ref) (places : map.Places ref ent)

include tree isHeld places

theorem Tree.readEntity :
    Tree pending (map.readEntity ref ent) ∧
      Reads map (map.readEntity ref ent) (map.objects ref).id := by
  have located : Tree pending (ent.loc.elim map (map.readLoc ref)) ∧
      Reads map (ent.loc.elim map (map.readLoc ref)) (map.objects ref).id := by
    cases isLoc : ent.loc with
    | none => exact ⟨tree, Reads.refl map _⟩
    | some loc =>
      constructor
      · exact tree.readLoc isHeld fun notOwn => (places loc isLoc notOwn).2
      · exact readLoc_reads tree ref fun notOwn => (places loc isLoc notOwn).1
  unfold MemMap.readEntity
  generalize ent.loc.elim map (map.readLoc ref) = here at located ⊢
  obtain ⟨treeHere, reads⟩ := located
  dsimp only
  split
  · exact ⟨treeHere, reads⟩
  · have same : SameTree here (ent.parent.elim here (here.readType ref)) := by
      cases ent.parent with
      | none => exact SameTree.refl here
      | some parent => exact sameTree_readType here ref parent
    obtain ⟨grows, treeNow⟩ := addContents_grows (treeHere.of_same same) ent.contains
    exact ⟨treeNow, (reads.of_same same).grows grows⟩

theorem Tree.updateEntity : Tree pending (map.updateEntity ref ent) := by
  have read := (tree.readEntity isHeld places).1
  unfold MemMap.updateEntity
  dsimp only
  split
  · exact read.of_same ⟨fun _ => rfl, fun _ => rfl, fun _ => rfl, fun _ => rfl, rfl⟩
  · exact read

end

theorem Tree.of_loose {rest : Option Nat} (tree : Tree pending map)
    (others : ∀ other, other ≠ ref → (rest = some other ↔ pending = some other))
    (isAllocated : ref < map.nextObject) (isLoose : map.Loose ref) : Tree rest map := by
  have held : ∀ other, other ≠ ref → (map.Held rest other ↔ map.Held pending other) := by
    intro other different
    unfold Held
    rw [others other different]
  refine ⟨tree.ids, ?_, tree.blank, tree.linked, ?_, tree.grounded⟩
  · intro other isHeld
    by_cases isRef : other = ref
    · rw [isRef]
      exact isAllocated
    · exact tree.allocated other ((held other isRef).mp isHeld)
  · intro other above isParent
    rw [held other, held above]
    · exact tree.closed other above isParent
    · rintro rfl
      have isListed := (tree.linked other above).mp isParent
      rw [isLoose.2] at isListed
      cases isListed
    · rintro rfl
      rw [isLoose.1] at isParent
      cases isParent

theorem Tree.newEntity (tree : Tree none map) (running : map.crashed = false)
    (absent : map.find id = none) (places : (map.allocate id).Places map.nextObject ent) :
    Tree none (map.newEntity id ent) := by
  have isNew : (map.allocate id).objects map.nextObject = ⟨id, none, [], none, false, 0⟩ := by
    rw [objects_allocate, if_pos rfl]
  have isLoose : (map.allocate id).Loose map.nextObject :=
    ⟨congrArg MemEntity.parent isNew, congrArg MemEntity.contains isNew⟩
  have others : ∀ other, other ≠ map.nextObject →
      ((none : Option Nat) = some other ↔ some map.nextObject = some other) := by
    intro other different
    simp [different.symm]
  have waits : Tree (some map.nextObject) (map.allocate id) :=
    (tree.allocate id).of_loose (fun other different => (others other different).symm)
      (Nat.lt_succ_self _) isLoose
  obtain ⟨treeRead, reads⟩ := waits.readEntity (.inr rfl) places
  unfold MemMap.newEntity
  dsimp only
  split
  · -- the entity is left behind
    rename_i failed
    have runs : (map.allocate id).crashed = false := running
    apply treeRead.of_loose others
    · exact Nat.lt_of_lt_of_le (Nat.lt_succ_self _) reads.next
    · rw [readEntity_eq_of_crashed runs failed]
      exact isLoose
  · apply treeRead.addEntity others
    · exact Nat.lt_of_lt_of_le (Nat.lt_succ_self _) reads.next
    · exact .inl rfl
    · intro other isFound different
      rw [reads.ids _ (Nat.lt_succ_self _)] at isFound
      rcases reads.replaced other isFound with known | isLoose
      · rw [isNew] at known
        have before : map.find id = some other := known
        rw [absent] at before
        cases before
      · exact isLoose

end MemMap

end Cyphesis.Ai
