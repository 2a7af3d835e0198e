import Cyphesis.Ai.MemReparent

/-!
# The memory of a mind over whole runs

Removing an entity takes it out of its parent, and everything below it out of what it was in.
-/

namespace Cyphesis.Ai

open Cyphesis.Foundation
open Cyphesis.Server (integerId)
open Function

namespace MemMap

variable {pending : Option Nat} {map before after : MemMap}

/-- The links of all entities agree. -/
structure Links (map : MemMap) : Prop where
  blank : ∀ ref, map.nextObject ≤ ref → map.parentOf ref = none ∧ map.containsOf ref = []
  linked : ∀ ref above, map.parentOf ref = some above ↔ ref ∈ map.containsOf above
  grounded : ∀ ref, Grounded map.parentOf ref

theorem Tree.links (tree : Tree pending map) : Links map :=
  ⟨tree.blank, tree.linked, tree.grounded⟩

/-- Entities only lose their parents. -/
structure Cuts (before after : MemMap) : Prop where
  id : ∀ ref, (after.objects ref).id = (before.objects ref).id
  find : ∀ id, after.find id = before.find id
  next : after.nextObject = before.nextObject
  parent : ∀ ref above, after.parentOf ref = some above → before.parentOf ref = some above

theorem Cuts.refl (map : MemMap) : Cuts map map :=
  ⟨fun _ => rfl, fun _ => rfl, rfl, fun _ _ isParent => isParent⟩

theorem Cuts.trans {first second third : MemMap} (before : Cuts first second)
    (after : Cuts second third) : Cuts first third where
  id ref := (after.id ref).trans (before.id ref)
  find id := (after.find id).trans (before.find id)
  next := after.next.trans before.next
  parent ref above isParent := before.parent ref above (after.parent ref above isParent)

theorem parentOf_unlink (map : MemMap) (ref : Nat) :
    (map.unlink ref).parentOf = update map.parentOf ref none := by
  unfold unlink
  cases isParent : map.parentOf ref with
  | none =>
    funext other
    dsimp only
    rw [update_apply]
    split
    · rename_i isRef
      rw [isRef]
      exact isParent
    · rfl
  | some above =>
    simp only [parentOf_modify_parent, parentOf_modify_contains]

theorem mem_containsOf_unlink (links : Links map) (ref other place : Nat) :
    other ∈ (map.unlink ref).containsOf place ↔ other ≠ ref ∧ other ∈ map.containsOf place := by
  unfold unlink
  cases isParent : map.parentOf ref with
  | none =>
    dsimp only
    constructor
    · intro isListed
      refine ⟨?_, isListed⟩
      rintro rfl
      rw [(links.linked other place).mpr isListed] at isParent
      cases isParent
    · exact And.right
  | some above =>
    simp only [containsOf_modify_parent, containsOf_modify_contains]
    exact mem_containsOf_left map ref links.linked isParent other place

theorem unlink_cuts (map : MemMap) (ref : Nat) : Cuts map (map.unlink ref) := by
  have parents := parentOf_unlink map ref
  constructor
  · intro other
    unfold unlink
    split
    · rfl
    · simp only [id_modify, implies_true]
  · intro id
    unfold unlink
    split
    · rfl
    · rfl
  · unfold unlink
    split
    · rfl
    · rfl
  · intro other above isParent
    rw [parents, update_apply] at isParent
    split at isParent
    · cases isParent
    · exact isParent

theorem Links.unlink (links : Links map) (ref : Nat) : Links (map.unlink ref) := by
  have cuts := unlink_cuts map ref
  constructor
  · intro other isFresh
    rw [cuts.next] at isFresh
    obtain ⟨noParent, empty⟩ := links.blank other isFresh
    constructor
    · rw [parentOf_unlink, update_apply]
      split
      · rfl
      · exact noParent
    · rw [List.eq_nil_iff_forall_not_mem]
      intro child isListed
      rw [mem_containsOf_unlink links, empty] at isListed
      cases isListed.2
  · intro other place
    rw [parentOf_unlink, mem_containsOf_unlink links, update_apply]
    split
    · rename_i isRef
      simp [isRef]
    · rename_i isOther
      rw [links.linked]
      simp [isOther]
  · intro other
    rw [parentOf_unlink]
    exact (links.grounded other).cut

variable (depth : Nat)

theorem destroy_cuts (links : Links map) (ref : Nat) :
    Links (destroy depth map ref) ∧ Cuts map (destroy depth map ref) := by
  induction depth generalizing map ref with
  | zero => exact ⟨links, Cuts.refl map⟩
  | succ depth ih =>
    unfold destroy
    apply run_invariant_of_step (fun current : MemMap => Links current ∧ Cuts map current)
    · intro current child ⟨linksNow, cuts⟩
      obtain ⟨linksNext, cutsNext⟩ := ih linksNow child
      exact ⟨linksNext, cuts.trans cutsNext⟩
    · exact ⟨links.unlink ref, unlink_cuts map ref⟩

theorem destroyAll_cuts (links : Links map) (children : List Nat) :
    Links (children.foldl (destroy depth) map) ∧
      Cuts map (children.foldl (destroy depth) map) := by
  apply run_invariant_of_step (fun current : MemMap => Links current ∧ Cuts map current)
  · intro current child ⟨linksNow, cuts⟩
    obtain ⟨linksNext, cutsNext⟩ := destroy_cuts depth linksNow child
    exact ⟨linksNext, cuts.trans cutsNext⟩
  · exact ⟨links, Cuts.refl map⟩

theorem parentOf_of_cuts (cuts : Cuts before after) {ref : Nat}
    (noParent : before.parentOf ref = none) : after.parentOf ref = none := by
  rw [Option.eq_none_iff_forall_ne_some] at noParent ⊢
  intro above isParent
  exact noParent above (cuts.parent ref above isParent)

theorem parentOf_destroy (links : Links map) (ref : Nat) :
    (destroy (depth + 1) map ref).parentOf ref = none := by
  unfold destroy
  apply parentOf_of_cuts (destroyAll_cuts depth (links.unlink ref) _).2
  rw [parentOf_unlink, update_self]

theorem parentOf_destroyAll (links : Links map) {children : List Nat} {child : Nat}
    (isChild : child ∈ children) :
    (children.foldl (destroy (depth + 1)) map).parentOf child = none := by
  induction children generalizing map with
  | nil => cases isChild
  | cons first rest ih =>
    have linksNext := (destroy_cuts (depth + 1) links first).1
    rcases List.mem_cons.mp isChild with rfl | isRest
    · exact parentOf_of_cuts (destroyAll_cuts (depth + 1) linksNext rest).2
        (parentOf_destroy depth links child)
    · exact ih linksNext isRest

theorem loose_destroy (links : Links map) (ref : Nat) :
    (destroy (depth + 2) map ref).Loose ref := by
  refine ⟨parentOf_destroy (depth + 1) links ref, ?_⟩
  rw [List.eq_nil_iff_forall_not_mem]
  intro child isListed
  have linksNow := (destroy_cuts (depth + 2) links ref).1
  have isParent := (linksNow.linked child ref).mpr isListed
  have linksFirst := links.unlink ref
  -- the child was in the entity when the contents were destroyed
  have cuts := (destroyAll_cuts (depth + 1) linksFirst ((map.unlink ref).containsOf ref)).2
  have isBefore := (linksFirst.linked child ref).mp (cuts.parent child ref isParent)
  have noParent := parentOf_destroyAll depth linksFirst isBefore
  exact absurd (noParent.symm.trans isParent) (by simp)

/-- One without links leaves `m_entities`. -/
theorem Tree.erase (tree : Tree none before) {key : Int} {ref : Nat}
    (found : before.find key = some ref) (links : Links after)
    (id : ∀ other, (after.objects other).id = (before.objects other).id)
    (find : ∀ id, after.find id = if id = key then none else before.find id)
    (next : after.nextObject = before.nextObject)
    (parent : ∀ other above, after.parentOf other = some above → before.parentOf other = some above)
    (isLoose : after.Loose ref) : Tree none after := by
  have held : ∀ other, after.Held none other → before.Held none other := by
    intro other isHeld
    left
    have isRegistered := isHeld.resolve_right (by simp)
    rw [Registered, id, find] at isRegistered
    split at isRegistered
    · cases isRegistered
    · exact isRegistered
  have stays : ∀ other, other ≠ ref → before.Held none other → after.Held none other := by
    intro other different isHeld
    left
    have isRegistered := isHeld.resolve_right (by simp)
    unfold Registered at isRegistered ⊢
    rw [id, find, if_neg]
    · exact isRegistered
    · intro isKey
      rw [isKey, found] at isRegistered
      exact different (Option.some.inj isRegistered).symm
  refine ⟨?_, ?_, links.blank, links.linked, ?_, links.grounded⟩
  · intro other entity isFound
    rw [find] at isFound
    rw [id]
    split at isFound
    · cases isFound
    · exact tree.ids other entity isFound
  · intro other isHeld
    rw [next]
    exact tree.allocated other (held other isHeld)
  · intro other above isParent
    have closed := tree.closed other above (parent other above isParent)
    have notChild : other ≠ ref := by
      rintro rfl
      rw [isLoose.1] at isParent
      cases isParent
    have notAbove : above ≠ ref := by
      rintro rfl
      have isListed := (links.linked other above).mp isParent
      rw [isLoose.2] at isListed
      cases isListed
    constructor
    · exact fun isHeld => stays above notAbove (closed.mp (held other isHeld))
    · exact fun isHeld => stays other notChild (closed.mpr (held above isHeld))

section Erased

variable {erased : MemMap} {key : Int} {ref : Nat}

theorem Links.of_objects (links : Links before) (objects : after.objects = before.objects)
    (next : after.nextObject = before.nextObject) : Links after := by
  have parents : after.parentOf = before.parentOf := by
    unfold parentOf
    rw [objects]
  have contents : after.containsOf = before.containsOf := by
    unfold containsOf
    rw [objects]
  constructor
  · rw [next, parents, contents]
    exact links.blank
  · rw [parents, contents]
    exact links.linked
  · rw [parents]
    exact links.grounded

section

variable (tree : Tree none map) (found : map.find key = some ref)
  (objects : erased.objects = map.objects) (next : erased.nextObject = map.nextObject)
  (find : ∀ id, erased.find id = if id = key then none else map.find id)

include tree found objects next find

theorem Tree.destroy (depth : Nat) : Tree none (destroy (depth + 2) erased ref) := by
  have links : Links erased := tree.links.of_objects objects next
  obtain ⟨linksNow, cuts⟩ := destroy_cuts (depth + 2) links ref
  apply tree.erase found linksNow
  · intro other
    rw [cuts.id, objects]
  · intro id
    rw [cuts.find, find]
  · exact cuts.next.trans next
  · intro other above isParent
    have isBefore := cuts.parent other above isParent
    rw [parentOf, objects] at isBefore
    exact isBefore
  · exact loose_destroy depth links ref

theorem Tree.unlink (empty : map.containsOf ref = []) : Tree none (erased.unlink ref) := by
  have links : Links erased := tree.links.of_objects objects next
  have cuts := unlink_cuts erased ref
  apply tree.erase found (links.unlink ref)
  · intro other
    rw [cuts.id, objects]
  · intro id
    rw [cuts.find, find]
  · exact cuts.next.trans next
  · intro other above isParent
    have isBefore := cuts.parent other above isParent
    rw [parentOf, objects] at isBefore
    exact isBefore
  · constructor
    · rw [parentOf_unlink, update_self]
    · rw [List.eq_nil_iff_forall_not_mem]
      intro child isListed
      rw [mem_containsOf_unlink links, containsOf, objects] at isListed
      have isContained : child ∈ map.containsOf ref := isListed.2
      rw [empty] at isContained
      cases isContained

end

end Erased

section

variable (tree : Tree none map)

include tree

theorem Tree.del (id : String) : Tree none (map.del id) := by
  unfold MemMap.del
  dsimp only
  split
  · exact tree.of_same ⟨fun _ => rfl, fun _ => rfl, fun _ => rfl, fun _ => rfl, rfl⟩
  · rename_i ref found
    apply tree.destroy found
    · rfl
    · rfl
    · exact lookup_filter_ne map.entities (integerId id)

theorem Tree.check (time : Rat) : Tree none (map.check time) := by
  have same : ∀ iterator, Tree none { map with checkIterator := iterator } := by
    intro iterator
    exact tree.of_same ⟨fun _ => rfl, fun _ => rfl, fun _ => rfl, fun _ => rfl, rfl⟩
  unfold MemMap.check
  split
  · exact same _
  · split
    · exact tree
    · rename_i key _ _ ref found
      dsimp only
      split
      · rename_i expired
        have empty : map.containsOf ref = [] := by
          unfold isExpired at expired
          simp only [decide_eq_true_eq] at expired
          exact expired.2.2.2
        apply tree.unlink found
        · rfl
        · rfl
        · exact lookup_filter_ne map.entities key
        · exact empty
      · exact same _

theorem Tree.flush : Tree none map.flush := by
  have notHeld : ∀ ref, ¬map.flush.Held none ref := by
    rintro ref (isRegistered | isPending)
    · cases isRegistered
    · cases isPending
  refine ⟨?_, ?_, tree.blank, tree.linked, ?_, tree.grounded⟩
  · intro id ref found
    cases found
  · intro ref isHeld
    exact absurd isHeld (notHeld ref)
  · intro ref above _
    exact ⟨fun isHeld => absurd isHeld (notHeld ref), fun isHeld => absurd isHeld (notHeld above)⟩

theorem Tree.resolveEntitiesForType (name : String) :
    Tree none (map.resolveEntitiesForType name) := by
  have typed : SameTree map
      ((map.waiting name).foldl (fun current ref => current.giveType ref name)
        { map with types := map.types.insert name }) := by
    apply run_invariant_of_step (fun current => SameTree map current)
    · intro current ref same
      exact same.trans (sameTree_giveType current ref name)
    · exact ⟨fun _ => rfl, fun _ => rfl, fun _ => rfl, fun _ => rfl, rfl⟩
  exact tree.of_same ⟨typed.id, typed.parent, typed.contains, typed.find, typed.next⟩

end

/-- Nothing is put into what it contains. -/
def Hangs (map : MemMap) : MemEvent → Prop
  | .update ent _ =>
    ∀ id loc, ent.id = some id → ent.loc = some loc → integerId id ≠ -1 →
      loc ≠ toString (integerId id) →
        integerId loc ≠ integerId id ∧
          ∀ ref, map.find (integerId id) = some ref → map.Outside ref loc
  | _ => True

theorem outside_allocate (tree : Tree none map) (id : Int) (loc : String) :
    (map.allocate id).Outside map.nextObject loc := by
  intro above found reaches
  have known : map.find (integerId loc) = some above := found
  have isHeld := tree.held_of_find known
  obtain ⟨child, isParent⟩ := reaches.exists_child (tree.ne_next_of_held isHeld)
  have allocated := tree.allocate id
  have isListed := (allocated.linked child map.nextObject).mp isParent
  rw [(links_allocate tree id map.nextObject).2, (tree.blank _ (Nat.le_refl _)).2] at isListed
  cases isListed

theorem Tree.updateAdd (tree : Tree none map) (running : map.crashed = false)
    {ent : EntityMessage} {time : Rat} (hangs : map.Hangs (.update ent time)) :
    Tree none (map.updateAdd ent time) := by
  have seen : ∀ (current : MemMap) (ref : Nat), Tree none current →
      Tree none (current.seen ref time) := by
    intro current ref treeNow
    exact treeNow.of_same (sameTree_modify current ref _ (fun _ => rfl) (fun _ => rfl)
      (fun _ => rfl))
  unfold MemMap.updateAdd
  split
  · exact tree
  · rename_i id isId
    split
    · exact tree
    · split
      · exact tree
      · rename_i isNumber
        split
        · rename_i absent
          apply seen
          apply tree.newEntity running absent
          intro loc isLoc notOwn
          have isNew : ((map.allocate (integerId id)).objects map.nextObject).id =
              integerId id := by
            rw [objects_allocate, if_pos rfl]
          rw [getId, isNew] at notOwn
          rw [isNew]
          exact ⟨(hangs id loc isId isLoc isNumber notOwn).1, outside_allocate tree _ loc⟩
        · rename_i ref known
          apply seen
          apply tree.updateEntity (tree.held_of_find known)
          intro loc isLoc notOwn
          rw [getId, tree.ids _ _ known] at notOwn
          rw [tree.ids _ _ known]
          obtain ⟨different, outside⟩ := hangs id loc isId isLoc isNumber notOwn
          exact ⟨different, outside ref known⟩

theorem Tree.step (tree : Tree none map) {event : MemEvent} (hangs : map.Hangs event) :
    Tree none (map.step event) := by
  unfold MemMap.step
  split
  · exact tree
  · rename_i running
    rw [Bool.not_eq_true] at running
    cases event with
    | update ent time => exact tree.updateAdd running hangs
    | getAdd id => exact (getAdd_finds tree id).2
    | setVisible id isVisible =>
      dsimp only
      split
      · exact tree
      · exact tree.of_same (sameTree_modify map _ _ (fun _ => rfl) (fun _ => rfl) (fun _ => rfl))
    | del id => exact tree.del id
    | check time => exact tree.check time
    | resolve name => exact tree.resolveEntitiesForType name
    | learn name => exact tree.of_same ⟨fun _ => rfl, fun _ => rfl, fun _ => rfl, fun _ => rfl, rfl⟩
    | flush => exact tree.flush

variable (types : List String)

theorem Tree.start : Tree none (start types) := by
  have notHeld : ∀ ref, ¬(MemMap.start types).Held none ref := by
    rintro ref (isRegistered | isPending)
    · cases isRegistered
    · cases isPending
  constructor
  · intro id ref found
    cases found
  · intro ref isHeld
    exact absurd isHeld (notHeld ref)
  · intro ref _
    exact ⟨rfl, rfl⟩
  · intro ref above
    constructor
    · intro isParent
      cases isParent
    · intro isListed
      cases isListed
  · intro ref above isParent
    cases isParent
  · intro ref
    exact ⟨ref, rfl, Reaches.refl _ ref⟩

/-- What links in `m_entities` should be. -/
structure IsTree (map : MemMap) : Prop where
  acyclic : ∀ ref, map.Registered ref → Grounded map.parentOf ref
  linked : ∀ ref above, map.Registered ref → map.Registered above →
    (map.parentOf ref = some above ↔ ref ∈ map.containsOf above)
  closed : ∀ ref above, map.Registered ref → map.parentOf ref = some above → map.Registered above

/-- The parents and contents in memory form a forest, as long as no message puts an entity below
itself. -/
theorem run_isTree {events : List MemEvent}
    (hang : Admissible step Hangs (start types) events) :
    (run step (start types) events).IsTree := by
  have tree : Tree none (run step (start types) events) := by
    apply run_invariant (Tree none) _ (Tree.start types) hang
    intro map event treeNow hangs
    exact treeNow.step hangs
  constructor
  · exact fun ref _ => tree.grounded ref
  · exact fun ref above _ _ => tree.linked ref above
  · intro ref above isRegistered isParent
    exact ((tree.closed ref above isParent).mp (.inl isRegistered)).resolve_right (by simp)

theorem outside_of_top {ref above : Nat} {loc : String}
    (found : map.find (integerId loc) = some above) (different : above ≠ ref)
    (isTop : map.parentOf above = none) : map.Outside ref loc := by
  intro place isPlace reaches
  rw [found] at isPlace
  cases isPlace
  obtain ⟨next, isParent, -⟩ := reaches.parent_of_ne different
  rw [isTop] at isParent
  cases isParent

theorem outside_of_absent {ref : Nat} {loc : String} (absent : map.find (integerId loc) = none) :
    map.Outside ref loc := by
  intro place isPlace
  rw [absent] at isPlace
  cases isPlace

/-- A message that says where an entity is. -/
def isIn (id loc : String) : MemEvent :=
  .update ⟨some id, some loc, none, []⟩ 0

/-- One leaves what is then deleted. -/
theorem run_isTree_taken_out :
    (run step (start []) [isIn "1" "2", isIn "2" "3", isIn "1" "3", .del "2"]).IsTree := by
  apply run_isTree
  have hangs : ∀ (map : MemMap) (id loc : String), integerId loc ≠ integerId id →
      (∀ ref, map.find (integerId id) = some ref → map.Outside ref loc) →
      map.Hangs (isIn id loc) := by
    intro map id loc different outside named place isId isLoc _ _
    cases isId
    cases isLoc
    exact ⟨different, outside⟩
  refine ⟨hangs _ _ _ (by decide +kernel) ?_, hangs _ _ _ (by decide +kernel) ?_,
    hangs _ _ _ (by decide +kernel) ?_, trivial, trivial⟩
  · exact fun _ _ => outside_of_absent rfl
  · exact fun _ _ => outside_of_absent (by decide +kernel)
  · intro ref known
    have isFirst : ref = 0 :=
      Option.some.inj (known.symm.trans (by decide +kernel))
    apply @outside_of_top _ ref 2
    · decide +kernel
    · rw [isFirst]
      decide
    · decide +kernel

/-- Each is put into the other. -/
theorem run_makes_cycle : ¬(run step (start []) [isIn "1" "2", isIn "2" "1"]).IsTree := by
  intro tree
  have grounded := tree.acyclic 0 (by decide +kernel)
  exact grounded.climb_ne_self (Nat.succ_pos 1) (by decide +kernel)

end MemMap

end Cyphesis.Ai
