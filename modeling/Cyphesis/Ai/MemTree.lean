import Cyphesis.Foundation.Keyed
import Cyphesis.Ai.MemMap

/-!
# The tree in the memory of a mind

The parents of entities, and the sets of what they contain, are two records of one relation.
-/

namespace Cyphesis.Ai

open Cyphesis.Foundation
open Cyphesis.Server (integerId)
open Function

namespace MemMap

theorem objects_modify (map : MemMap) (ref : Nat) (change : MemEntity → MemEntity) (other : Nat) :
    (map.modify ref change).objects other =
      if other = ref then change (map.objects ref) else map.objects other :=
  update_apply map.objects ref (change (map.objects ref)) other

theorem find_addEntity (map : MemMap) (ref : Nat) (id : Int) :
    (map.addEntity ref).find id =
      if id = (map.objects ref).id then some ref else map.find id := by
  unfold find addEntity
  rw [lookup_insert_filter_ne]

/-- The entity is in `m_entities`. -/
def Registered (map : MemMap) (ref : Nat) : Prop :=
  map.find (map.objects ref).id = some ref

instance (map : MemMap) (ref : Nat) : Decidable (map.Registered ref) :=
  inferInstanceAs (Decidable (map.find (map.objects ref).id = some ref))

/-- The entity is in `m_entities`, or about to be. -/
def Held (map : MemMap) (pending : Option Nat) (ref : Nat) : Prop :=
  map.Registered ref ∨ pending = some ref

/-- A forest, with those held apart. -/
structure Tree (pending : Option Nat) (map : MemMap) : Prop where
  ids : ∀ id ref, map.find id = some ref → (map.objects ref).id = id
  allocated : ∀ ref, map.Held pending ref → ref < map.nextObject
  blank : ∀ ref, map.nextObject ≤ ref → map.parentOf ref = none ∧ map.containsOf ref = []
  linked : ∀ ref above, map.parentOf ref = some above ↔ ref ∈ map.containsOf above
  closed : ∀ ref above, map.parentOf ref = some above →
    (map.Held pending ref ↔ map.Held pending above)
  grounded : ∀ ref, Grounded map.parentOf ref

/-- Nothing of the tree differs. -/
structure SameTree (before after : MemMap) : Prop where
  id : ∀ ref, (after.objects ref).id = (before.objects ref).id
  parent : ∀ ref, after.parentOf ref = before.parentOf ref
  contains : ∀ ref, after.containsOf ref = before.containsOf ref
  find : ∀ id, after.find id = before.find id
  next : after.nextObject = before.nextObject

theorem SameTree.refl (map : MemMap) : SameTree map map :=
  ⟨fun _ => rfl, fun _ => rfl, fun _ => rfl, fun _ => rfl, rfl⟩

theorem SameTree.trans {first second third : MemMap} (before : SameTree first second)
    (after : SameTree second third) : SameTree first third where
  id ref := (after.id ref).trans (before.id ref)
  parent ref := (after.parent ref).trans (before.parent ref)
  contains ref := (after.contains ref).trans (before.contains ref)
  find id := (after.find id).trans (before.find id)
  next := after.next.trans before.next

variable {pending : Option Nat} {map before after : MemMap}

theorem held_of_same (id : ∀ ref, (after.objects ref).id = (before.objects ref).id)
    (find : ∀ id, after.find id = before.find id) (ref : Nat) :
    after.Held pending ref ↔ before.Held pending ref := by
  unfold Held Registered
  rw [id, find]

theorem SameTree.held (same : SameTree before after) (ref : Nat) :
    after.Held pending ref ↔ before.Held pending ref :=
  held_of_same same.id same.find ref

theorem Tree.of_same (tree : Tree pending before) (same : SameTree before after) :
    Tree pending after := by
  have parents : after.parentOf = before.parentOf := funext same.parent
  constructor
  · intro id ref found
    rw [same.find] at found
    rw [same.id]
    exact tree.ids id ref found
  · intro ref isHeld
    rw [same.held] at isHeld
    rw [same.next]
    exact tree.allocated ref isHeld
  · intro ref isFresh
    rw [same.next] at isFresh
    rw [same.parent, same.contains]
    exact tree.blank ref isFresh
  · intro ref above
    rw [same.parent, same.contains]
    exact tree.linked ref above
  · intro ref above isParent
    rw [same.parent] at isParent
    rw [same.held, same.held]
    exact tree.closed ref above isParent
  · intro ref
    rw [parents]
    exact tree.grounded ref

section

variable (map) (ref : Nat)

theorem sameTree_modify (change : MemEntity → MemEntity)
    (id : ∀ entity, (change entity).id = entity.id)
    (parent : ∀ entity, (change entity).parent = entity.parent)
    (contains : ∀ entity, (change entity).contains = entity.contains) :
    SameTree map (map.modify ref change) := by
  constructor
  · intro other
    rw [objects_modify]
    split
    · rename_i same
      rw [id, same]
    · rfl
  · intro other
    unfold parentOf
    rw [objects_modify]
    split
    · rename_i same
      rw [parent, same]
    · rfl
  · intro other
    unfold containsOf
    rw [objects_modify]
    split
    · rename_i same
      rw [contains, same]
    · rfl
  · intro _
    rfl
  · rfl

theorem sameTree_giveType (name : String) : SameTree map (map.giveType ref name) := by
  have typed := sameTree_modify map ref (fun entity => { entity with type := some name })
    (fun _ => rfl) (fun _ => rfl) (fun _ => rfl)
  exact ⟨typed.id, typed.parent, typed.contains, typed.find, typed.next⟩

theorem sameTree_readType (name : String) : SameTree map (map.readType ref name) := by
  unfold readType
  split
  · exact SameTree.refl map
  · split
    · exact sameTree_giveType map ref name
    · exact ⟨fun _ => rfl, fun _ => rfl, fun _ => rfl, fun _ => rfl, rfl⟩

end

/-- An entity has no links. -/
def Loose (map : MemMap) (ref : Nat) : Prop :=
  map.parentOf ref = none ∧ map.containsOf ref = []

theorem objects_allocate (map : MemMap) (id : Int) (other : Nat) :
    (map.allocate id).objects other =
      if other = map.nextObject then ⟨id, none, [], none, false, 0⟩ else map.objects other :=
  update_apply map.objects map.nextObject _ other

theorem links_allocate (tree : Tree pending map) (id : Int) (ref : Nat) :
    (map.allocate id).parentOf ref = map.parentOf ref ∧
      (map.allocate id).containsOf ref = map.containsOf ref := by
  unfold parentOf containsOf
  rw [objects_allocate]
  split
  · rename_i isNew
    have loose := tree.blank ref (Nat.le_of_eq isNew.symm)
    exact ⟨loose.1.symm, loose.2.symm⟩
  · exact ⟨rfl, rfl⟩

section Allocated

variable (ids : ∀ id ref, map.find id = some ref → (map.objects ref).id = id)
  (allocated : ∀ ref, map.Held pending ref → ref < map.nextObject)

include ids

theorem held_of_found {id : Int} {ref : Nat} (found : map.find id = some ref) :
    map.Held pending ref := by
  left
  unfold Registered
  rw [ids id ref found]
  exact found

include allocated

theorem held_allocate_iff (id : Int) (ref : Nat) :
    (map.allocate id).Held pending ref ↔ map.Held pending ref := by
  by_cases isNew : ref = map.nextObject
  · have notHeld : ¬map.Held pending ref := by
      intro isHeld
      exact Nat.ne_of_lt (allocated ref isHeld) isNew
    have notRegistered : ¬(map.allocate id).Registered ref := by
      intro isRegistered
      have found : map.find ((map.allocate id).objects ref).id = some ref := isRegistered
      exact notHeld (held_of_found ids found)
    unfold Held at notHeld ⊢
    rw [not_or] at notHeld
    simp only [notRegistered, notHeld.1, false_or]
  · unfold Held Registered
    rw [objects_allocate, if_neg isNew]
    exact Iff.rfl

end Allocated

section

variable (tree : Tree pending map)

include tree

variable {ref : Nat}

theorem Tree.ne_next_of_held (isHeld : map.Held pending ref) : ref ≠ map.nextObject :=
  Nat.ne_of_lt (tree.allocated ref isHeld)

theorem Tree.held_of_find {id : Int} (found : map.find id = some ref) : map.Held pending ref :=
  held_of_found tree.ids found

theorem held_allocate (id : Int) (ref : Nat) :
    (map.allocate id).Held pending ref ↔ map.Held pending ref :=
  held_allocate_iff tree.ids tree.allocated id ref

theorem Tree.allocate (id : Int) : Tree pending (map.allocate id) := by
  have parents : (map.allocate id).parentOf = map.parentOf :=
    funext fun ref => (links_allocate tree id ref).1
  constructor
  · intro other ref found
    have isHeld := tree.held_of_find found
    rw [objects_allocate, if_neg (tree.ne_next_of_held isHeld)]
    exact tree.ids other ref found
  · intro ref isHeld
    rw [held_allocate tree] at isHeld
    exact Nat.lt_succ_of_lt (tree.allocated ref isHeld)
  · intro ref isFresh
    rw [(links_allocate tree id ref).1, (links_allocate tree id ref).2]
    exact tree.blank ref (Nat.le_of_succ_le isFresh)
  · intro ref above
    rw [(links_allocate tree id ref).1, (links_allocate tree id above).2]
    exact tree.linked ref above
  · intro ref above isParent
    rw [parents] at isParent
    rw [held_allocate tree, held_allocate tree]
    exact tree.closed ref above isParent
  · rw [parents]
    exact tree.grounded

/-- Add an entity without links. -/
theorem Tree.addEntity {rest : Option Nat}
    (others : ∀ other, other ≠ ref → (rest = some other ↔ pending = some other))
    (isAllocated : ref < map.nextObject) (isLoose : pending = some ref ∨ map.Loose ref)
    (replaced : ∀ other, map.find (map.objects ref).id = some other → other ≠ ref →
      map.Loose other) :
    Tree rest (map.addEntity ref) := by
  have own : (map.addEntity ref).Held rest ref := by
    left
    exact (find_addEntity map ref _).trans (if_pos rfl)
  have held : ∀ other, ¬map.Loose other →
      ((map.addEntity ref).Held rest other ↔ map.Held pending other) := by
    intro other isLinked
    by_cases isRef : other = ref
    · subst isRef
      have isPending := isLoose.resolve_right isLinked
      exact ⟨fun _ => .inr isPending, fun _ => own⟩
    · have registered : (map.addEntity ref).Registered other ↔ map.Registered other := by
        have lookup := find_addEntity map ref (map.objects other).id
        by_cases sameId : (map.objects other).id = (map.objects ref).id
        · rw [if_pos sameId] at lookup
          constructor
          · intro isRegistered
            exact absurd (Option.some.inj (lookup.symm.trans isRegistered)).symm isRef
          · intro isRegistered
            exact absurd (replaced other (sameId ▸ isRegistered) isRef) isLinked
        · rw [if_neg sameId] at lookup
          unfold Registered
          exact Eq.congr_left lookup
      unfold Held
      rw [registered, others other isRef]
  constructor
  · intro id other found
    rw [find_addEntity] at found
    split at found
    · rename_i isId
      cases found
      exact isId.symm
    · exact tree.ids id other found
  · intro other isHeld
    by_cases isRef : other = ref
    · rw [isRef]
      exact isAllocated
    · rcases isHeld with isRegistered | isRest
      · have lookup := find_addEntity map ref (map.objects other).id
        rw [show (map.addEntity ref).find (map.objects other).id = some other from isRegistered]
          at lookup
        split at lookup
        · exact absurd (Option.some.inj lookup) isRef
        · exact tree.allocated other (.inl lookup.symm)
      · exact tree.allocated other (.inr ((others other isRef).mp isRest))
  · exact tree.blank
  · exact tree.linked
  · intro other above isParent
    rw [held other, held above]
    · exact tree.closed other above isParent
    · intro isLooseAbove
      have isListed := (tree.linked other above).mp isParent
      rw [isLooseAbove.2] at isListed
      cases isListed
    · intro isLooseOther
      exact absurd (isLooseOther.1.symm.trans isParent) (by simp)
  · exact tree.grounded

theorem Tree.addId {id : Int} (absent : map.find id = none) : Tree pending (map.addId id) := by
  have allocated := tree.allocate id
  have isNew : (map.allocate id).objects map.nextObject = ⟨id, none, [], none, false, 0⟩ := by
    rw [objects_allocate, if_pos rfl]
  apply allocated.addEntity (fun _ _ => Iff.rfl) (Nat.lt_succ_self _)
  · right
    unfold Loose parentOf containsOf
    rw [isNew]
    exact ⟨rfl, rfl⟩
  · intro other found
    rw [isNew] at found
    have before : map.find id = some other := found
    rw [absent] at before
    cases before

end

/-- What `getAdd` leaves and finds. -/
structure Finds (before after : MemMap) (id : String) (found : Option Nat) : Prop where
  parent : ∀ ref, after.parentOf ref = before.parentOf ref
  contains : ∀ ref, after.containsOf ref = before.containsOf ref
  objects : ∀ ref, ref < before.nextObject → after.objects ref = before.objects ref
  find : ∀ other, other ≠ integerId id → after.find other = before.find other
  kept : ∀ other ref, before.find other = some ref → after.find other = some ref
  next : before.nextObject ≤ after.nextObject
  found : ∀ ref, found = some ref → after.find (integerId id) = some ref
  loose : ∀ ref, after.find (integerId id) = some ref →
    before.find (integerId id) = some ref ∨ before.nextObject ≤ ref ∧ after.Loose ref

theorem getAdd_finds (tree : Tree pending map) (id : String) :
    Finds map (map.getAdd id).1 id (map.getAdd id).2 ∧ Tree pending (map.getAdd id).1 := by
  have unchanged : ∀ found : Option Nat,
      (∀ ref, found = some ref → map.find (integerId id) = some ref) →
      Finds map map id found := by
    intro found isFound
    exact ⟨fun _ => rfl, fun _ => rfl, fun _ _ => rfl, fun _ _ => rfl, fun _ _ known => known,
      Nat.le_refl _, isFound, fun _ => .inl⟩
  unfold getAdd
  split
  · exact ⟨unchanged none (fun _ isSome => by cases isSome), tree⟩
  · split
    · exact ⟨unchanged none (fun _ isSome => by cases isSome), tree⟩
    · split
      · rename_i ref known
        refine ⟨unchanged (some ref) ?_, tree⟩
        intro other same
        cases same
        exact known
      · rename_i absent
        refine ⟨?_, tree.addId absent⟩
        have isNew : (map.allocate (integerId id)).objects map.nextObject =
            ⟨integerId id, none, [], none, false, 0⟩ := by
          rw [objects_allocate, if_pos rfl]
        have lookup : ∀ other, (map.addId (integerId id)).find other =
            if other = integerId id then some map.nextObject else map.find other := by
          intro other
          rw [addId, find_addEntity, isNew]
          rfl
        constructor
        · exact fun ref => (links_allocate tree _ ref).1
        · exact fun ref => (links_allocate tree _ ref).2
        · intro ref isOld
          exact (objects_allocate map _ ref).trans (if_neg (Nat.ne_of_lt isOld))
        · intro other different
          rw [lookup, if_neg different]
        · intro other ref known
          have different : other ≠ integerId id := by
            rintro rfl
            rw [absent] at known
            cases known
          rw [lookup, if_neg different]
          exact known
        · exact Nat.le_succ _
        · intro ref isFound
          rw [lookup, if_pos rfl]
          exact isFound
        · intro ref isFound
          rw [lookup, if_pos rfl] at isFound
          cases isFound
          exact .inr ⟨Nat.le_refl _, congrArg MemEntity.parent isNew,
            congrArg MemEntity.contains isNew⟩

/-- Only entities without links are added. -/
structure Grows (before after : MemMap) : Prop where
  parent : ∀ ref, after.parentOf ref = before.parentOf ref
  contains : ∀ ref, after.containsOf ref = before.containsOf ref
  objects : ∀ ref, ref < before.nextObject → after.objects ref = before.objects ref
  next : before.nextObject ≤ after.nextObject
  loose : ∀ id ref, after.find id = some ref → before.find id = some ref ∨ after.Loose ref

theorem Grows.refl (map : MemMap) : Grows map map :=
  ⟨fun _ => rfl, fun _ => rfl, fun _ _ => rfl, Nat.le_refl _, fun _ _ => .inl⟩

theorem Grows.trans {first second third : MemMap} (before : Grows first second)
    (after : Grows second third) : Grows first third := by
  constructor
  · intro ref
    rw [after.parent, before.parent]
  · intro ref
    rw [after.contains, before.contains]
  · intro ref isOld
    rw [after.objects ref (Nat.lt_of_lt_of_le isOld before.next), before.objects ref isOld]
  · exact Nat.le_trans before.next after.next
  · intro id ref found
    rcases after.loose id ref found with known | isLoose
    · rcases before.loose id ref known with known | isLoose
      · exact .inl known
      · right
        unfold Loose
        rw [after.parent, after.contains]
        exact isLoose
    · exact .inr isLoose

theorem Finds.grows {id : String} {found : Option Nat} (finds : Finds before after id found) :
    Grows before after := by
  refine ⟨finds.parent, finds.contains, finds.objects, finds.next, ?_⟩
  intro other ref isFound
  by_cases isId : other = integerId id
  · subst isId
    exact (finds.loose ref isFound).imp_right And.right
  · rw [finds.find other isId] at isFound
    exact .inl isFound

theorem addContents_grows (tree : Tree pending map) (contlist : List String) :
    Grows map (map.addContents contlist) ∧ Tree pending (map.addContents contlist) := by
  apply run_invariant_of_step
    (fun current : MemMap => Grows map current ∧ Tree pending current) _ ⟨Grows.refl map, tree⟩
  intro current child grown
  obtain ⟨finds, treeNow⟩ := getAdd_finds grown.2 child
  exact ⟨grown.1.trans finds.grows, treeNow⟩

section Links

variable (map : MemMap) (ref : Nat)

theorem id_modify {change : MemEntity → MemEntity} (id : ∀ entity, (change entity).id = entity.id)
    (other : Nat) : ((map.modify ref change).objects other).id = (map.objects other).id := by
  rw [objects_modify]
  split
  · rename_i same
    rw [id, same]
  · rfl

variable (parent : Option Nat)

theorem parentOf_modify_parent :
    (map.modify ref fun entity => { entity with parent := parent }).parentOf =
      update map.parentOf ref parent := by
  funext other
  rw [parentOf, objects_modify, update_apply]
  split
  · rfl
  · rfl

theorem containsOf_modify_parent :
    (map.modify ref fun entity => { entity with parent := parent }).containsOf =
      map.containsOf := by
  funext other
  rw [containsOf, objects_modify]
  split
  · rename_i same
    rw [same]
    rfl
  · rfl

variable (change : List Nat → List Nat)

theorem parentOf_modify_contains :
    (map.modify ref fun entity => { entity with contains := change entity.contains }).parentOf =
      map.parentOf := by
  funext other
  rw [parentOf, objects_modify]
  split
  · rename_i same
    rw [same]
    rfl
  · rfl

theorem containsOf_modify_contains :
    (map.modify ref fun entity => { entity with contains := change entity.contains }).containsOf =
      update map.containsOf ref (change (map.containsOf ref)) := by
  funext other
  rw [containsOf, objects_modify, update_apply]
  split
  · rfl
  · rfl

variable (above : Nat)

theorem parentOf_hang : (map.hang ref above).parentOf = update map.parentOf ref (some above) := by
  unfold hang
  cases map.parentOf ref with
  | none =>
    simp only [parentOf_modify_contains, parentOf_modify_parent]
  | some old =>
    simp only [parentOf_modify_contains, parentOf_modify_parent]

theorem id_hang (above other : Nat) :
    ((map.hang ref above).objects other).id = (map.objects other).id := by
  unfold hang
  cases map.parentOf ref with
  | none => simp only [id_modify, implies_true]
  | some old => simp only [id_modify, implies_true]

theorem find_hang : (map.hang ref above).find = map.find := by
  unfold hang
  cases map.parentOf ref with
  | none => rfl
  | some old => rfl

theorem nextObject_hang : (map.hang ref above).nextObject = map.nextObject := by
  unfold hang
  cases map.parentOf ref with
  | none => rfl
  | some old => rfl

theorem crashed_hang : (map.hang ref above).crashed = map.crashed := by
  unfold hang
  cases map.parentOf ref with
  | none => rfl
  | some old => rfl

theorem mem_containsOf_left (linked : ∀ ref above, map.parentOf ref = some above ↔
      ref ∈ map.containsOf above) {old : Nat} (isOld : map.parentOf ref = some old)
    (other place : Nat) :
    other ∈ update map.containsOf old ((map.containsOf old).filter (· ≠ ref)) place ↔
      other ≠ ref ∧ other ∈ map.containsOf place := by
  rw [update_apply]
  by_cases isPlace : place = old
  · rw [if_pos isPlace, isPlace, List.mem_filter, decide_eq_true_eq, and_comm]
  · rw [if_neg isPlace]
    constructor
    · intro isListed
      refine ⟨?_, isListed⟩
      rintro rfl
      have isParent := (linked other place).mpr isListed
      rw [isOld] at isParent
      exact isPlace (Option.some.inj isParent).symm
    · exact And.right

theorem mem_containsOf_hang (linked : ∀ ref above, map.parentOf ref = some above ↔
      ref ∈ map.containsOf above) (above other place : Nat) :
    other ∈ (map.hang ref above).containsOf place ↔
      if other = ref then place = above else other ∈ map.containsOf place := by
  -- what the places contain once the entity has left its parent
  obtain ⟨emptied, contains, left⟩ : ∃ emptied : Nat → List Nat,
      (map.hang ref above).containsOf = update emptied above ((emptied above).insert ref) ∧
      ∀ other place, other ∈ emptied place ↔ other ≠ ref ∧ other ∈ map.containsOf place := by
    unfold hang
    cases isOld : map.parentOf ref with
    | none =>
      refine ⟨map.containsOf, ?_, ?_⟩
      · simp only [containsOf_modify_contains, containsOf_modify_parent]
      · intro other place
        constructor
        · intro isListed
          refine ⟨?_, isListed⟩
          rintro rfl
          rw [(linked other place).mpr isListed] at isOld
          cases isOld
        · exact And.right
    | some old =>
      refine ⟨update map.containsOf old ((map.containsOf old).filter (· ≠ ref)), ?_,
        mem_containsOf_left map ref linked isOld⟩
      simp only [containsOf_modify_contains, containsOf_modify_parent]
  rw [contains, update_apply]
  by_cases isRef : other = ref
  · rw [if_pos isRef]
    by_cases isAbove : place = above
    · simp [isAbove, isRef]
    · simp [isAbove, isRef, left]
  · rw [if_neg isRef]
    by_cases isAbove : place = above
    · simp [isAbove, isRef, left]
    · simp [isAbove, isRef, left]

end Links

section

variable (map)

theorem crashed_getAdd (id : String) : (map.getAdd id).1.crashed = map.crashed := by
  unfold getAdd
  split
  · rfl
  · split
    · rfl
    · split
      · rfl
      · rfl

theorem crashed_addContents (contlist : List String) :
    (map.addContents contlist).crashed = map.crashed := by
  apply run_invariant_of_step (fun current : MemMap => current.crashed = map.crashed) _ rfl
  intro current child same
  exact (crashed_getAdd current child).trans same

theorem crashed_readType (ref : Nat) (parent : String) :
    (map.readType ref parent).crashed = map.crashed := by
  unfold readType
  split
  · rfl
  · split
    · rfl
    · rfl

end

theorem readLoc_eq_of_crashed {ref : Nat} {loc : String} (running : map.crashed = false)
    (failed : (map.readLoc ref loc).crashed = true) :
    map.readLoc ref loc = { map with crashed := true } := by
  have runs : ¬map.crashed = true := by
    rw [running]
    exact Bool.false_ne_true
  have crashed := crashed_getAdd map loc
  unfold readLoc at failed ⊢
  split at failed
  · exact absurd failed runs
  · rename_i notOwn
    rw [if_neg notOwn]
    split at failed
    · exact absurd failed runs
    · rename_i notOld
      rw [if_neg notOld]
      split at failed
      · rfl
      · rename_i result
        rw [result] at crashed
        rw [crashed_hang, crashed] at failed
        exact absurd failed runs

theorem readEntity_eq_of_crashed {ref : Nat} {ent : EntityMessage} (running : map.crashed = false)
    (failed : (map.readEntity ref ent).crashed = true) :
    map.readEntity ref ent = { map with crashed := true } := by
  have located : (ent.loc.elim map (map.readLoc ref)).crashed = true →
      ent.loc.elim map (map.readLoc ref) = { map with crashed := true } := by
    cases ent.loc with
    | none =>
      intro fails
      exact absurd (running.symm.trans fails) Bool.false_ne_true
    | some loc => exact readLoc_eq_of_crashed running
  unfold readEntity at failed ⊢
  generalize ent.loc.elim map (map.readLoc ref) = here at located failed ⊢
  dsimp only at failed ⊢
  split at failed
  · rename_i fails
    rw [if_pos fails]
    exact located fails
  · rename_i runs
    rw [crashed_addContents] at failed
    cases isParent : ent.parent with
    | none =>
      rw [isParent] at failed
      exact absurd failed runs
    | some parent =>
      rw [isParent, Option.elim_some, crashed_readType] at failed
      exact absurd failed runs

/-- Hanging one below what it does not contain. -/
theorem Tree.hang (tree : Tree pending map) {ref above : Nat} (isHeld : map.Held pending ref)
    (aboveHeld : map.Held pending above) (notBelow : ¬Reaches map.parentOf above ref) :
    Tree pending (map.hang ref above) := by
  have parents := parentOf_hang map ref above
  have held : ∀ other, (map.hang ref above).Held pending other ↔ map.Held pending other :=
    held_of_same (id_hang map ref above) (congrFun (find_hang map ref above))
  have next := nextObject_hang map ref above
  constructor
  · intro id other found
    rw [find_hang] at found
    rw [id_hang]
    exact tree.ids id other found
  · intro other isHeld
    rw [held] at isHeld
    rw [next]
    exact tree.allocated other isHeld
  · intro other isFresh
    rw [next] at isFresh
    have notRef : other ≠ ref := by
      rintro rfl
      exact absurd (tree.allocated other isHeld) (Nat.not_lt.mpr isFresh)
    have notAbove : other ≠ above := by
      rintro rfl
      exact absurd (tree.allocated other aboveHeld) (Nat.not_lt.mpr isFresh)
    obtain ⟨noParent, empty⟩ := tree.blank other isFresh
    constructor
    · rw [parents, update_of_ne notRef]
      exact noParent
    · rw [List.eq_nil_iff_forall_not_mem]
      intro child isListed
      rw [mem_containsOf_hang map ref tree.linked] at isListed
      split at isListed
      · exact notAbove isListed
      · rw [empty] at isListed
        cases isListed
  · intro other place
    rw [parents, mem_containsOf_hang map ref tree.linked, update_apply]
    split
    · rw [Option.some.injEq, eq_comm]
    · exact tree.linked other place
  · intro other place isParent
    rw [held, held]
    rw [parents, update_apply] at isParent
    split at isParent
    · rename_i isRef
      cases isParent
      rw [isRef]
      exact ⟨fun _ => aboveHeld, fun _ => isHeld⟩
    · exact tree.closed other place isParent
  · intro other
    rw [parents]
    exact (tree.grounded above).hang notBelow (tree.grounded other)

end MemMap

end Cyphesis.Ai
