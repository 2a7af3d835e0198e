import Cyphesis.Ai.MemTree

/-!
# The listener of the memory of a mind

The listener should have been told of the entities in memory that have a type. `check` and `flush`
tell nothing, and `del` looks under the id of the entity for those that wait.
-/

namespace Cyphesis.Ai

open Cyphesis.Foundation List
open Cyphesis.Server (integerId)

namespace MemMap

/-- What the listener knows after a call. -/
def hear (told : List Nat) : MapCall → List Nat
  | .entityAdded ref => told.insert ref
  | .entityUpdated _ => told
  | .entityDeleted ref => told.filter (· ≠ ref)

variable (calls : List MapCall)

/-- The entities that the listener was told of and that were not deleted. -/
def told : List Nat :=
  calls.foldl hear []

/-- Added once, and not mentioned when deleted. -/
def Follows : MapCall → Prop
  | .entityAdded ref => ref ∉ told calls ∧ .entityDeleted ref ∉ calls
  | .entityUpdated ref => .entityDeleted ref ∉ calls
  | .entityDeleted ref => .entityDeleted ref ∉ calls

/-- Every call may follow those before it. -/
def Regular : Prop :=
  ∀ first call rest, calls = first ++ call :: rest → Follows first call

theorem told_append (call : MapCall) : told (calls ++ [call]) = hear (told calls) call :=
  foldl_append

theorem Regular.append {calls : List MapCall} (regular : Regular calls) {call : MapCall}
    (follows : Follows calls call) : Regular (calls ++ [call]) := by
  intro first other rest split
  rcases eq_nil_or_concat rest with rfl | ⟨front, last, rfl⟩
  · obtain ⟨rfl, same⟩ := append_inj' split rfl
    cases same
    exact follows
  · rw [concat_eq_append, ← cons_append, ← append_assoc] at split
    obtain ⟨same, -⟩ := append_inj' split rfl
    exact regular first other front same

/-- The listener knows what has a type. -/
structure InStep (map : MemMap) : Prop where
  told : ∀ ref, ref ∈ told map.calls ↔ map.Registered ref ∧ (map.objects ref).type.isSome
  regular : Regular map.calls

/-- An entity that nothing is known of. -/
def Fresh (map : MemMap) (ref : Nat) : Prop :=
  (map.objects ref).type = none ∧ ∀ name, ref ∉ map.waiting name

structure Heard (pending : Option Nat) (map : MemMap) : Prop where
  ids : ∀ id ref, map.find id = some ref → (map.objects ref).id = id
  allocated : ∀ ref, map.Held pending ref → ref < map.nextObject
  told : ∀ ref, ref ∈ told map.calls ↔ map.Held pending ref ∧ (map.objects ref).type.isSome
  regular : Regular map.calls
  gone : ∀ ref, .entityDeleted ref ∈ map.calls → ref < map.nextObject ∧ ¬map.Held pending ref
  waits : ∀ name, ∀ ref ∈ map.waiting name, map.Held pending ref ∧ (map.objects ref).type = none
  once : ∀ name other ref, ref ∈ map.waiting name → ref ∈ map.waiting other → name = other
  nodup : ∀ name, (map.waiting name).Nodup
  known : ∀ name ∈ map.types, map.waiting name = []

/-- The listener is not concerned. -/
structure Quiet (before after : MemMap) : Prop where
  id : ∀ ref, (after.objects ref).id = (before.objects ref).id
  type : ∀ ref, (after.objects ref).type = (before.objects ref).type
  find : ∀ id, after.find id = before.find id
  next : after.nextObject = before.nextObject
  waiting : ∀ name, after.waiting name = before.waiting name
  types : after.types = before.types
  calls : after.calls = before.calls

theorem Quiet.refl (map : MemMap) : Quiet map map :=
  ⟨fun _ => rfl, fun _ => rfl, fun _ => rfl, rfl, fun _ => rfl, rfl, rfl⟩

theorem Quiet.trans {first second third : MemMap} (before : Quiet first second)
    (after : Quiet second third) : Quiet first third where
  id ref := (after.id ref).trans (before.id ref)
  type ref := (after.type ref).trans (before.type ref)
  find id := (after.find id).trans (before.find id)
  next := after.next.trans before.next
  waiting name := (after.waiting name).trans (before.waiting name)
  types := after.types.trans before.types
  calls := after.calls.trans before.calls

variable {pending : Option Nat} {map before after : MemMap}

theorem Heard.of_quiet (heard : Heard pending before) (quiet : Quiet before after) :
    Heard pending after := by
  have held : ∀ ref, after.Held pending ref ↔ before.Held pending ref :=
    held_of_same quiet.id quiet.find
  constructor
  · intro id ref found
    rw [quiet.find] at found
    rw [quiet.id]
    exact heard.ids id ref found
  · intro ref isHeld
    rw [held] at isHeld
    rw [quiet.next]
    exact heard.allocated ref isHeld
  · intro ref
    rw [quiet.calls, held, quiet.type]
    exact heard.told ref
  · rw [quiet.calls]
    exact heard.regular
  · intro ref isGone
    rw [quiet.calls] at isGone
    rw [held, quiet.next]
    exact heard.gone ref isGone
  · intro name ref isWaiting
    rw [quiet.waiting] at isWaiting
    rw [held, quiet.type]
    exact heard.waits name ref isWaiting
  · intro name other ref first second
    rw [quiet.waiting] at first second
    exact heard.once name other ref first second
  · intro name
    rw [quiet.waiting]
    exact heard.nodup name
  · intro name isKnown
    rw [quiet.types] at isKnown
    rw [quiet.waiting]
    exact heard.known name isKnown

section

variable (map)

theorem quiet_modify (ref : Nat) (change : MemEntity → MemEntity)
    (id : ∀ entity, (change entity).id = entity.id)
    (type : ∀ entity, (change entity).type = entity.type) : Quiet map (map.modify ref change) := by
  refine ⟨id_modify map ref id, ?_, fun _ => rfl, rfl, fun _ => rfl, rfl, rfl⟩
  intro other
  rw [objects_modify]
  split
  · rename_i same
    rw [type, same]
  · rfl

theorem quiet_hang (ref above : Nat) : Quiet map (map.hang ref above) := by
  have moved := quiet_modify map ref (fun entity => { entity with parent := some above })
    (fun _ => rfl) (fun _ => rfl)
  unfold hang
  cases map.parentOf ref with
  | none => exact moved.trans (quiet_modify _ _ _ (fun _ => rfl) (fun _ => rfl))
  | some old =>
    have left := moved.trans (quiet_modify _ old
      (fun entity => { entity with contains := entity.contains.filter (· ≠ ref) })
      (fun _ => rfl) (fun _ => rfl))
    exact left.trans (quiet_modify _ _ _ (fun _ => rfl) (fun _ => rfl))

theorem quiet_unlink (ref : Nat) : Quiet map (map.unlink ref) := by
  unfold unlink
  cases map.parentOf ref with
  | none => exact Quiet.refl map
  | some above =>
    have left := quiet_modify map above
      (fun entity => { entity with contains := entity.contains.filter (· ≠ ref) })
      (fun _ => rfl) (fun _ => rfl)
    exact left.trans (quiet_modify _ _ _ (fun _ => rfl) (fun _ => rfl))

end

theorem quiet_destroy (depth : Nat) (map : MemMap) (ref : Nat) :
    Quiet map (destroy depth map ref) := by
  induction depth generalizing map ref with
  | zero => exact Quiet.refl map
  | succ depth ih =>
    unfold destroy
    apply run_invariant_of_step (fun current : MemMap => Quiet map current)
    · intro current child quiet
      exact quiet.trans (ih current child)
    · exact quiet_unlink map ref

variable {ref : Nat} {ent : EntityMessage}

section

variable (heard : Heard pending map)

include heard

theorem Heard.held_of_find {id : Int} (found : map.find id = some ref) : map.Held pending ref :=
  held_of_found heard.ids found

theorem Heard.ne_next_of_held (isHeld : map.Held pending ref) : ref ≠ map.nextObject :=
  Nat.ne_of_lt (heard.allocated ref isHeld)

variable (id : Int)

theorem Heard.held_allocate (ref : Nat) :
    (map.allocate id).Held pending ref ↔ map.Held pending ref :=
  held_allocate_iff heard.ids heard.allocated id ref

theorem Heard.allocate : Heard pending (map.allocate id) := by
  have objects : ∀ ref, map.Held pending ref → (map.allocate id).objects ref = map.objects ref := by
    intro ref isHeld
    rw [objects_allocate, if_neg (heard.ne_next_of_held isHeld)]
  constructor
  · intro other ref found
    rw [objects ref (heard.held_of_find found)]
    exact heard.ids other ref found
  · intro ref isHeld
    rw [heard.held_allocate] at isHeld
    exact Nat.lt_succ_of_lt (heard.allocated ref isHeld)
  · intro ref
    rw [heard.held_allocate]
    apply (heard.told ref).trans
    apply and_congr_right
    intro isHeld
    rw [objects ref isHeld]
  · exact heard.regular
  · intro ref isGone
    rw [heard.held_allocate]
    exact ⟨Nat.lt_succ_of_lt (heard.gone ref isGone).1, (heard.gone ref isGone).2⟩
  · intro name ref isWaiting
    obtain ⟨isHeld, untyped⟩ := heard.waits name ref isWaiting
    rw [heard.held_allocate, objects ref isHeld]
    exact ⟨isHeld, untyped⟩
  · exact heard.once
  · exact heard.nodup
  · exact heard.known

theorem Heard.fresh_allocate : (map.allocate id).Fresh map.nextObject := by
  constructor
  · rw [objects_allocate, if_pos rfl]
  · intro name isWaiting
    exact heard.ne_next_of_held (heard.waits name _ isWaiting).1 rfl

/-- Add an entity that is new. -/
theorem Heard.addEntity {rest : Option Nat}
    (others : ∀ other, other ≠ ref → (rest = some other ↔ pending = some other))
    (isAllocated : ref < map.nextObject) (isNew : .entityDeleted ref ∉ map.calls)
    (isFresh : pending = some ref ∨ map.Fresh ref)
    (replaced : ∀ other, map.find (map.objects ref).id = some other → other ≠ ref →
      map.Fresh other) :
    Heard rest (map.addEntity ref) := by
  have own : (map.addEntity ref).Held rest ref := by
    left
    exact (find_addEntity map ref _).trans (if_pos rfl)
  have shrinks : ∀ other, other ≠ ref → (map.addEntity ref).Held rest other →
      map.Held pending other := by
    rintro other different (isRegistered | isRest)
    · have lookup := find_addEntity map ref (map.objects other).id
      rw [show (map.addEntity ref).find (map.objects other).id = some other from isRegistered]
        at lookup
      split at lookup
      · exact absurd (Option.some.inj lookup) different
      · exact .inl lookup.symm
    · exact .inr ((others other different).mp isRest)
  have keeps : ∀ other, other ≠ ref → ¬map.Fresh other → map.Held pending other →
      (map.addEntity ref).Held rest other := by
    rintro other different isKnown (isRegistered | isPending)
    · left
      have lookup := find_addEntity map ref (map.objects other).id
      rw [if_neg] at lookup
      · exact lookup.trans isRegistered
      · intro sameId
        exact isKnown (replaced other (sameId ▸ isRegistered) different)
    · exact .inr ((others other different).mpr isPending)
  have held : ∀ other, ¬map.Fresh other →
      ((map.addEntity ref).Held rest other ↔ map.Held pending other) := by
    intro other isKnown
    by_cases isRef : other = ref
    · subst isRef
      have isPending := isFresh.resolve_right isKnown
      exact ⟨fun _ => .inr isPending, fun _ => own⟩
    · exact ⟨shrinks other isRef, keeps other isRef isKnown⟩
  refine ⟨?_, ?_, ?_, heard.regular, ?_, ?_, heard.once, heard.nodup, heard.known⟩
  · intro id other found
    rw [find_addEntity] at found
    split at found
    · rename_i isId
      cases found
      exact isId.symm
    · exact heard.ids id other found
  · intro other isHeld
    by_cases isRef : other = ref
    · rw [isRef]
      exact isAllocated
    · exact heard.allocated other (shrinks other isRef isHeld)
  · intro other
    apply (heard.told other).trans
    apply and_congr_left
    intro typed
    apply (held other _).symm
    intro isFresh
    have isTyped : (map.objects other).type.isSome := typed
    rw [isFresh.1] at isTyped
    cases isTyped
  · intro other isGone
    obtain ⟨isOld, notHeld⟩ := heard.gone other isGone
    refine ⟨isOld, ?_⟩
    intro isHeld
    by_cases isRef : other = ref
    · subst isRef
      exact isNew isGone
    · exact notHeld (shrinks other isRef isHeld)
  · intro name other isWaiting
    obtain ⟨isHeld, untyped⟩ := heard.waits name other isWaiting
    refine ⟨(held other ?_).mpr isHeld, untyped⟩
    intro isFresh
    exact isFresh.2 name isWaiting

end

/-- What a message does to the others. -/
structure Takes (ref : Nat) (before after : MemMap) : Prop where
  ids : ∀ other, other < before.nextObject → (after.objects other).id = (before.objects other).id
  next : before.nextObject ≤ after.nextObject
  kept : ∀ id other, before.find id = some other → after.find id = some other
  fresh : ∀ other, other ≠ ref → before.Fresh other → after.Fresh other
  replaced : ∀ id other, other ≠ ref → after.find id = some other →
    before.find id = some other ∨ after.Fresh other

theorem Takes.refl (ref : Nat) (map : MemMap) : Takes ref map map :=
  ⟨fun _ _ => rfl, Nat.le_refl _, fun _ _ found => found, fun _ _ isFresh => isFresh,
    fun _ _ _ => .inl⟩

theorem Takes.trans {first second third : MemMap} (before : Takes ref first second)
    (after : Takes ref second third) : Takes ref first third := by
  constructor
  · intro other isOld
    rw [after.ids other (Nat.lt_of_lt_of_le isOld before.next), before.ids other isOld]
  · exact Nat.le_trans before.next after.next
  · intro id other found
    exact after.kept id other (before.kept id other found)
  · intro other different isFresh
    exact after.fresh other different (before.fresh other different isFresh)
  · intro id other different found
    rcases after.replaced id other different found with known | isFresh
    · exact (before.replaced id other different known).imp_right (after.fresh other different)
    · exact .inr isFresh

theorem Quiet.takes (quiet : Quiet before after) (ref : Nat) : Takes ref before after := by
  refine ⟨fun other _ => quiet.id other, Nat.le_of_eq quiet.next.symm, ?_, ?_, ?_⟩
  · intro id other found
    rw [quiet.find]
    exact found
  · intro other _ isFresh
    refine ⟨(quiet.type other).trans isFresh.1, ?_⟩
    intro name
    rw [quiet.waiting]
    exact isFresh.2 name
  · intro id other _ found
    rw [quiet.find] at found
    exact .inl found

theorem getAdd_heard (heard : Heard pending map) (id : String) (ref : Nat) :
    Heard pending (map.getAdd id).1 ∧ Takes ref map (map.getAdd id).1 := by
  unfold getAdd
  split
  · exact ⟨heard, Takes.refl ref map⟩
  · split
    · exact ⟨heard, Takes.refl ref map⟩
    · split
      · exact ⟨heard, Takes.refl ref map⟩
      · rename_i absent
        have isNew : (map.allocate (integerId id)).objects map.nextObject =
            ⟨integerId id, none, [], none, false, 0⟩ := by
          rw [objects_allocate, if_pos rfl]
        have isFresh := heard.fresh_allocate (integerId id)
        constructor
        · apply (heard.allocate (integerId id)).addEntity (fun _ _ => Iff.rfl) (Nat.lt_succ_self _)
          · intro isGone
            exact absurd (heard.gone _ isGone).1 (Nat.lt_irrefl _)
          · exact .inr isFresh
          · intro other found
            rw [isNew] at found
            have known : map.find (integerId id) = some other := found
            rw [absent] at known
            cases known
        · constructor
          · intro other isOld
            exact congrArg MemEntity.id
              ((objects_allocate map _ other).trans (if_neg (Nat.ne_of_lt isOld)))
          · exact Nat.le_succ _
          · intro other entity known
            have different : other ≠ integerId id := by
              rintro rfl
              rw [absent] at known
              cases known
            dsimp only
            rw [addId, find_addEntity, isNew, if_neg different]
            exact known
          · intro other _ otherFresh
            by_cases isLast : other = map.nextObject
            · rw [isLast]
              exact isFresh
            · refine ⟨?_, otherFresh.2⟩
              exact (congrArg MemEntity.type
                ((objects_allocate map _ other).trans (if_neg isLast))).trans otherFresh.1
          · intro other entity _ found
            dsimp only at found
            rw [addId, find_addEntity] at found
            split at found
            · cases found
              exact .inr isFresh
            · exact .inl found

theorem addContents_heard (heard : Heard pending map) (contlist : List String) (ref : Nat) :
    Heard pending (map.addContents contlist) ∧ Takes ref map (map.addContents contlist) := by
  apply run_invariant_of_step
    (fun current : MemMap => Heard pending current ∧ Takes ref map current) _
    ⟨heard, Takes.refl ref map⟩
  intro current child ⟨heardNow, takes⟩
  obtain ⟨heardNext, more⟩ := getAdd_heard heardNow child ref
  exact ⟨heardNext, takes.trans more⟩

theorem mem_hear_added {told : List Nat} {ref other : Nat} :
    other ∈ hear told (.entityAdded ref) ↔ other = ref ∨ other ∈ told :=
  mem_insert_iff

theorem mem_hear_deleted {told : List Nat} {ref other : Nat} :
    other ∈ hear told (.entityDeleted ref) ↔ other ∈ told ∧ other ≠ ref := by
  simp [hear]

section

variable (map) (ref) (name : String) (other : Nat)

theorem type_giveType :
    ((map.giveType ref name).objects other).type =
      if other = ref then some name else (map.objects other).type := by
  unfold giveType
  dsimp only
  rw [objects_modify]
  split
  · rfl
  · rfl

theorem held_giveType : (map.giveType ref name).Held pending other ↔ map.Held pending other :=
  (sameTree_giveType map ref name).held other

end

variable {name : String}

theorem Heard.giveType (heard : Heard pending map) (isHeld : map.Held pending ref)
    (isFresh : map.Fresh ref) :
    Heard pending (map.giveType ref name) := by
  have same := sameTree_giveType map ref name
  have calls : (map.giveType ref name).calls = map.calls ++ [.entityAdded ref] := rfl
  have notTold : ref ∉ MemMap.told map.calls := by
    rw [heard.told, isFresh.1]
    simp
  refine ⟨?_, ?_, ?_, ?_, ?_, ?_, heard.once, heard.nodup, heard.known⟩
  · intro id other found
    rw [same.id]
    exact heard.ids id other found
  · intro other isHeldNow
    rw [held_giveType] at isHeldNow
    exact heard.allocated other isHeldNow
  · intro other
    rw [calls, told_append, mem_hear_added, held_giveType, type_giveType, heard.told]
    by_cases isRef : other = ref
    · simp [isRef, isHeld]
    · simp [isRef]
  · rw [calls]
    apply heard.regular.append
    exact ⟨notTold, fun isGone => (heard.gone ref isGone).2 isHeld⟩
  · intro other isGone
    rw [held_giveType]
    rw [calls, mem_append] at isGone
    exact heard.gone other (isGone.resolve_right (by simp))
  · intro waited other isWaiting
    obtain ⟨otherHeld, untyped⟩ := heard.waits waited other isWaiting
    rw [held_giveType, type_giveType, if_neg]
    · exact ⟨otherHeld, untyped⟩
    · rintro rfl
      exact isFresh.2 waited isWaiting

theorem waiting_insert (map : MemMap) (name : String) (refs : List Nat) (other : String) :
    { map with
      unresolvedEntities := (name, refs) ::
        map.unresolvedEntities.filter (·.1 ≠ name) }.waiting other =
      if other = name then refs else map.waiting other := by
  unfold waiting
  dsimp only
  rw [lookup_insert_filter_ne]
  split
  · rfl
  · rfl

section

variable (heard : Heard pending map) (isHeld : map.Held pending ref)

include heard isHeld

theorem Heard.wait
    (untyped : (map.objects ref).type = none) (isUnknown : name ∉ map.types)
    (only : ∀ other, ref ∈ map.waiting other → other = name) :
    Heard pending { map with
      unresolvedEntities := (name, (map.waiting name).insert ref) ::
        map.unresolvedEntities.filter (·.1 ≠ name) } := by
  have mem : ∀ other entity, entity ∈ { map with
      unresolvedEntities := (name, (map.waiting name).insert ref) ::
        map.unresolvedEntities.filter (·.1 ≠ name) }.waiting other →
      entity ∈ map.waiting other ∨ other = name ∧ entity = ref := by
    intro other entity isWaiting
    rw [waiting_insert] at isWaiting
    split at isWaiting
    · rename_i isName
      rw [mem_insert_iff] at isWaiting
      rw [isName]
      exact isWaiting.symm.imp_right fun isRef => ⟨rfl, isRef⟩
    · exact .inl isWaiting
  refine ⟨heard.ids, heard.allocated, heard.told, heard.regular, heard.gone, ?_, ?_, ?_, ?_⟩
  · intro other entity isWaiting
    rcases mem other entity isWaiting with waited | ⟨-, rfl⟩
    · exact heard.waits other entity waited
    · exact ⟨isHeld, untyped⟩
  · intro first second entity isFirst isSecond
    rcases mem first entity isFirst with waitedFirst | ⟨rfl, rfl⟩
    · rcases mem second entity isSecond with waitedSecond | ⟨rfl, rfl⟩
      · exact heard.once first second entity waitedFirst waitedSecond
      · exact only first waitedFirst
    · rcases mem second entity isSecond with waitedSecond | ⟨rfl, -⟩
      · exact (only second waitedSecond).symm
      · rfl
  · intro other
    rw [waiting_insert]
    split
    · exact (heard.nodup name).insert
    · exact heard.nodup other
  · intro other isKnown
    rw [waiting_insert, if_neg]
    · exact heard.known other isKnown
    · rintro rfl
      exact isUnknown isKnown

theorem readType_heard {parent : String}
    (only : ∀ name, ref ∈ map.waiting name → name = parent) :
    Heard pending (map.readType ref parent) ∧ Takes ref map (map.readType ref parent) := by
  unfold readType
  split
  · exact ⟨heard, Takes.refl ref map⟩
  · rename_i untyped
    split
    · rename_i isKnown
      have isFresh : map.Fresh ref := by
        refine ⟨untyped, ?_⟩
        intro name isWaiting
        have isParent := only name isWaiting
        rw [isParent, heard.known parent isKnown] at isWaiting
        cases isWaiting
      have same := sameTree_giveType map ref parent
      refine ⟨heard.giveType isHeld isFresh, fun other _ => same.id other, Nat.le_refl _,
        fun _ _ found => found, ?_, ?_⟩
      · intro other different otherFresh
        refine ⟨?_, otherFresh.2⟩
        rw [type_giveType, if_neg different]
        exact otherFresh.1
      · exact fun _ _ _ => .inl
    · rename_i isUnknown
      refine ⟨heard.wait isHeld untyped isUnknown only, fun _ _ => rfl, Nat.le_refl _,
        fun _ _ found => found, ?_, ?_⟩
      · intro other different otherFresh
        refine ⟨otherFresh.1, ?_⟩
        intro name isWaiting
        rw [waiting_insert] at isWaiting
        split at isWaiting
        · rw [mem_insert_iff] at isWaiting
          exact otherFresh.2 parent (isWaiting.resolve_left different)
        · exact otherFresh.2 name isWaiting
      · exact fun _ _ _ => .inl

end

/-! ## Reading a message -/

theorem Takes.held {ref other : Nat} (takes : Takes ref map after) (heard : Heard pending map)
    (isHeld : map.Held pending other) : after.Held pending other := by
  have isOld := heard.allocated other isHeld
  rcases isHeld with isRegistered | isPending
  · left
    unfold Registered
    rw [takes.ids other isOld]
    exact takes.kept _ other isRegistered
  · exact .inr isPending

theorem waiting_getAdd (map : MemMap) (id name : String) :
    (map.getAdd id).1.waiting name = map.waiting name := by
  unfold getAdd
  split
  · rfl
  · split
    · rfl
    · split
      · rfl
      · rfl

theorem readLoc_heard (heard : Heard pending map) (ref : Nat) (loc : String) :
    Heard pending (map.readLoc ref loc) ∧ Takes ref map (map.readLoc ref loc) ∧
      ∀ name, (map.readLoc ref loc).waiting name = map.waiting name := by
  have unchanged : Heard pending map ∧ Takes ref map map ∧
      ∀ name, map.waiting name = map.waiting name :=
    ⟨heard, Takes.refl ref map, fun _ => rfl⟩
  unfold readLoc
  split
  · exact unchanged
  · split
    · exact unchanged
    · obtain ⟨heardNow, takes⟩ := getAdd_heard heard loc ref
      have waits := waiting_getAdd map loc
      split
      · have quiet : Quiet map { map with crashed := true } :=
          ⟨fun _ => rfl, fun _ => rfl, fun _ => rfl, rfl, fun _ => rfl, rfl, rfl⟩
        exact ⟨heard.of_quiet quiet, quiet.takes ref, quiet.waiting⟩
      · rename_i added above result
        rw [result] at heardNow takes waits
        have quiet := quiet_hang added ref above
        refine ⟨heardNow.of_quiet quiet, takes.trans (quiet.takes ref), ?_⟩
        intro name
        rw [quiet.waiting]
        exact waits name

/-- An entity that waits for a type waits for the one in the message. -/
def Expects (map : MemMap) (ref : Nat) (ent : EntityMessage) : Prop :=
  ∀ parent, ent.parent = some parent → ∀ name, ref ∈ map.waiting name → name = parent

section

variable (heard : Heard pending map) (isHeld : map.Held pending ref) (expects : map.Expects ref ent)

include heard isHeld expects

theorem readEntity_heard :
    Heard pending (map.readEntity ref ent) ∧ Takes ref map (map.readEntity ref ent) := by
  have located : Heard pending (ent.loc.elim map (map.readLoc ref)) ∧
      Takes ref map (ent.loc.elim map (map.readLoc ref)) ∧
      ∀ name, (ent.loc.elim map (map.readLoc ref)).waiting name = map.waiting name := by
    cases ent.loc with
    | none => exact ⟨heard, Takes.refl ref map, fun _ => rfl⟩
    | some loc => exact readLoc_heard heard ref loc
  unfold readEntity
  generalize ent.loc.elim map (map.readLoc ref) = here at located ⊢
  obtain ⟨heardHere, takes, waits⟩ := located
  dsimp only
  split
  · exact ⟨heardHere, takes⟩
  · have typed : Heard pending (ent.parent.elim here (here.readType ref)) ∧
        Takes ref here (ent.parent.elim here (here.readType ref)) := by
      cases isParent : ent.parent with
      | none => exact ⟨heardHere, Takes.refl ref here⟩
      | some parent =>
        apply readType_heard heardHere (takes.held heard isHeld)
        intro name isWaiting
        rw [waits] at isWaiting
        exact expects parent isParent name isWaiting
    obtain ⟨heardTyped, typedTakes⟩ := typed
    obtain ⟨heardNow, more⟩ := addContents_heard heardTyped ent.contains ref
    exact ⟨heardNow, (takes.trans typedTakes).trans more⟩

theorem Heard.updateEntity : Heard pending (map.updateEntity ref ent) := by
  obtain ⟨heardNow, takes⟩ := readEntity_heard heard isHeld expects
  have heldNow := takes.held heard isHeld
  unfold MemMap.updateEntity
  generalize map.readEntity ref ent = read at heardNow heldNow ⊢
  dsimp only
  split
  · refine ⟨heardNow.ids, heardNow.allocated, ?_, ?_, ?_, heardNow.waits, heardNow.once,
      heardNow.nodup, heardNow.known⟩
    · intro other
      rw [told_append]
      exact heardNow.told other
    · apply heardNow.regular.append
      exact fun isGone => (heardNow.gone ref isGone).2 heldNow
    · intro other isGone
      rw [mem_append] at isGone
      exact heardNow.gone other (isGone.resolve_right (by simp))
  · exact heardNow

end

theorem Heard.of_fresh {rest : Option Nat} (heard : Heard pending map)
    (others : ∀ other, other ≠ ref → (rest = some other ↔ pending = some other))
    (isAllocated : ref < map.nextObject) (isFresh : map.Fresh ref)
    (isNew : .entityDeleted ref ∉ map.calls) : Heard rest map := by
  have held : ∀ other, other ≠ ref → (map.Held rest other ↔ map.Held pending other) := by
    intro other different
    unfold Held
    rw [others other different]
  refine ⟨heard.ids, ?_, ?_, heard.regular, ?_, ?_, heard.once, heard.nodup, heard.known⟩
  · intro other isHeld
    by_cases isRef : other = ref
    · rw [isRef]
      exact isAllocated
    · exact heard.allocated other ((held other isRef).mp isHeld)
  · intro other
    rw [heard.told]
    by_cases isRef : other = ref
    · rw [isRef, isFresh.1]
      simp
    · rw [held other isRef]
  · intro other isGone
    have different : other ≠ ref := by
      rintro rfl
      exact isNew isGone
    rw [held other different]
    exact heard.gone other isGone
  · intro name other isWaiting
    have different : other ≠ ref := by
      rintro rfl
      exact isFresh.2 name isWaiting
    rw [held other different]
    exact heard.waits name other isWaiting

theorem Heard.newEntity {id : Int} (heard : Heard none map) (running : map.crashed = false)
    (absent : map.find id = none) :
    Heard none (map.newEntity id ent) := by
  have isNew : (map.allocate id).objects map.nextObject = ⟨id, none, [], none, false, 0⟩ := by
    rw [objects_allocate, if_pos rfl]
  have isFresh := heard.fresh_allocate id
  have notGone : .entityDeleted map.nextObject ∉ (map.allocate id).calls := by
    intro isGone
    exact absurd (heard.gone _ isGone).1 (Nat.lt_irrefl _)
  have others : ∀ other, other ≠ map.nextObject →
      ((none : Option Nat) = some other ↔ some map.nextObject = some other) := by
    intro other different
    simp [different.symm]
  have waits : Heard (some map.nextObject) (map.allocate id) :=
    (heard.allocate id).of_fresh (fun other different => (others other different).symm)
      (Nat.lt_succ_self _) isFresh notGone
  have expects : (map.allocate id).Expects map.nextObject ent := by
    intro parent _ name isWaiting
    exact absurd isWaiting (isFresh.2 name)
  obtain ⟨heardRead, takes⟩ := readEntity_heard waits (.inr rfl) expects
  have isAllocated : map.nextObject <
      ((map.allocate id).readEntity map.nextObject ent).nextObject :=
    Nat.lt_of_lt_of_le (Nat.lt_succ_self _) takes.next
  unfold MemMap.newEntity
  dsimp only
  split
  · rename_i failed
    have runs : (map.allocate id).crashed = false := running
    apply heardRead.of_fresh others isAllocated
    · rw [readEntity_eq_of_crashed runs failed]
      exact isFresh
    · rw [readEntity_eq_of_crashed runs failed]
      exact notGone
  · apply heardRead.addEntity others isAllocated
    · intro isGone
      exact (heardRead.gone _ isGone).2 (.inr rfl)
    · exact .inl rfl
    · intro other isFound different
      rw [takes.ids _ (Nat.lt_succ_self _)] at isFound
      rcases takes.replaced _ other different isFound with known | otherFresh
      · rw [isNew] at known
        have before : map.find id = some other := known
        rw [absent] at before
        cases before
      · exact otherFresh

theorem waiting_erase (map : MemMap) (name other : String) :
    { map with unresolvedEntities := map.unresolvedEntities.filter (·.1 ≠ name) }.waiting other =
      if other = name then [] else map.waiting other := by
  unfold waiting
  dsimp only
  rw [lookup_filter_ne]
  split
  · rfl
  · rfl

theorem Heard.stopWaiting (heard : Heard pending map) (name : String) :
    Heard pending
      { map with unresolvedEntities := map.unresolvedEntities.filter (·.1 ≠ name) } := by
  have mem : ∀ other, ∀ ref ∈ { map with
      unresolvedEntities := map.unresolvedEntities.filter (·.1 ≠ name) }.waiting other,
      ref ∈ map.waiting other := by
    intro other ref isWaiting
    rw [waiting_erase] at isWaiting
    split at isWaiting
    · cases isWaiting
    · exact isWaiting
  refine ⟨heard.ids, heard.allocated, heard.told, heard.regular, heard.gone, ?_, ?_, ?_, ?_⟩
  · intro other ref isWaiting
    exact heard.waits other ref (mem other ref isWaiting)
  · intro first second ref isFirst isSecond
    exact heard.once first second ref (mem first ref isFirst) (mem second ref isSecond)
  · intro other
    rw [waiting_erase]
    split
    · exact nodup_nil
    · exact heard.nodup other
  · intro other isKnown
    rw [waiting_erase]
    split
    · rfl
    · exact heard.known other isKnown

/-- The listener is told that one leaves. -/
theorem Heard.erase {key : Int} (heard : Heard none before) (found : before.find key = some ref)
    (notWaiting : ∀ name, ref ∉ before.waiting name) (objects : after.objects = before.objects)
    (next : after.nextObject = before.nextObject)
    (find : ∀ id, after.find id = if id = key then none else before.find id)
    (waiting : ∀ name, after.waiting name = before.waiting name)
    (types : after.types = before.types) (calls : after.calls =
      if (before.objects ref).type.isSome then before.calls ++ [.entityDeleted ref]
      else before.calls) :
    Heard none after := by
  have isRef : ∀ other, before.find (before.objects other).id = some other →
      ((before.objects other).id = key ↔ other = ref) := by
    intro other isRegistered
    constructor
    · intro isKey
      rw [isKey, found] at isRegistered
      exact (Option.some.inj isRegistered).symm
    · rintro rfl
      exact heard.ids key other found
  have held : ∀ other, after.Held none other ↔ before.Held none other ∧ other ≠ ref := by
    intro other
    unfold Held Registered
    rw [objects, find]
    constructor
    · rintro (isRegistered | isPending)
      · split at isRegistered
        · cases isRegistered
        · rename_i notKey
          exact ⟨.inl isRegistered, mt (isRef other isRegistered).mpr notKey⟩
      · cases isPending
    · rintro ⟨isRegistered | isPending, different⟩
      · left
        rw [if_neg (mt (isRef other isRegistered).mp different)]
        exact isRegistered
      · cases isPending
  have refHeld : before.Held none ref := heard.held_of_find found
  have notGone : .entityDeleted ref ∉ before.calls := fun isGone =>
    (heard.gone ref isGone).2 refHeld
  have deleted : ∀ other, .entityDeleted other ∈ after.calls →
      .entityDeleted other ∈ before.calls ∨ other = ref := by
    intro other isGone
    rw [calls] at isGone
    split at isGone
    · rw [mem_append, mem_singleton, MapCall.entityDeleted.injEq] at isGone
      exact isGone
    · exact .inl isGone
  constructor
  · intro id other isFound
    rw [find] at isFound
    rw [objects]
    split at isFound
    · cases isFound
    · exact heard.ids id other isFound
  · intro other isHeld
    rw [next]
    exact heard.allocated other ((held other).mp isHeld).1
  · intro other
    rw [held, objects, calls]
    split
    · rw [told_append, mem_hear_deleted, heard.told, and_right_comm]
    · rename_i untyped
      rw [heard.told]
      constructor
      · rintro ⟨isHeld, typed⟩
        refine ⟨⟨isHeld, ?_⟩, typed⟩
        rintro rfl
        exact untyped typed
      · rintro ⟨⟨isHeld, -⟩, typed⟩
        exact ⟨isHeld, typed⟩
  · rw [calls]
    split
    · exact heard.regular.append notGone
    · exact heard.regular
  · intro other isGone
    rw [next, held]
    rcases deleted other isGone with wasGone | rfl
    · exact ⟨(heard.gone other wasGone).1, fun isHeld => (heard.gone other wasGone).2 isHeld.1⟩
    · exact ⟨heard.allocated other refHeld, fun isHeld => isHeld.2 rfl⟩
  · intro name other isWaiting
    rw [waiting] at isWaiting
    obtain ⟨isHeld, untyped⟩ := heard.waits name other isWaiting
    rw [held, objects]
    refine ⟨⟨isHeld, ?_⟩, untyped⟩
    rintro rfl
    exact notWaiting name isWaiting
  · intro first second other isFirst isSecond
    rw [waiting] at isFirst isSecond
    exact heard.once first second other isFirst isSecond
  · intro name
    rw [waiting]
    exact heard.nodup name
  · intro name isKnown
    rw [types] at isKnown
    rw [waiting]
    exact heard.known name isKnown

theorem Heard.del {id : String} (heard : Heard none map)
    (waits : ∀ ref, map.find (integerId id) = some ref →
      ∀ name, ref ∈ map.waiting name → name = id) : Heard none (map.del id) := by
  have resolved := heard.stopWaiting id
  unfold MemMap.del
  dsimp only
  split
  · exact resolved
  · rename_i ref found
    apply Heard.of_quiet _ (quiet_destroy _ _ ref)
    apply resolved.erase found
    · intro name isWaiting
      rw [waiting_erase] at isWaiting
      split at isWaiting
      · cases isWaiting
      · rename_i different
        exact different (waits ref found name isWaiting)
    · rfl
    · rfl
    · exact lookup_filter_ne map.entities (integerId id)
    · exact fun _ => rfl
    · rfl
    · rfl

section

variable (map) (name) (refs : List Nat)

theorem foldl_giveType_unresolved
    (unresolved : List (String × List Nat)) :
    refs.foldl (fun current ref => current.giveType ref name)
        { map with unresolvedEntities := unresolved } =
      { refs.foldl (fun current ref => current.giveType ref name) map with
        unresolvedEntities := unresolved } := by
  induction refs generalizing map with
  | nil => rfl
  | cons ref rest ih => exact ih (map.giveType ref name)

theorem unresolved_foldl_giveType :
    (refs.foldl (fun current ref => current.giveType ref name) map).unresolvedEntities =
      map.unresolvedEntities := by
  induction refs generalizing map with
  | nil => rfl
  | cons ref rest ih => exact ih (map.giveType ref name)

end

theorem Heard.giveTypes {refs : List Nat} (heard : Heard pending map)
    (nodup : refs.Nodup) (fresh : ∀ ref ∈ refs, map.Held pending ref ∧ map.Fresh ref) :
    Heard pending (refs.foldl (fun current ref => current.giveType ref name) map) := by
  induction refs generalizing map with
  | nil => exact heard
  | cons ref rest ih =>
    obtain ⟨isHeld, isFresh⟩ := fresh ref mem_cons_self
    obtain ⟨notLater, nodupRest⟩ := List.nodup_cons.mp nodup
    apply ih (heard.giveType isHeld isFresh) nodupRest
    intro other isRest
    obtain ⟨otherHeld, otherFresh⟩ := fresh other (mem_cons_of_mem ref isRest)
    have different : other ≠ ref := by
      rintro rfl
      exact notLater isRest
    rw [held_giveType]
    refine ⟨otherHeld, ?_, otherFresh.2⟩
    rw [type_giveType, if_neg different]
    exact otherFresh.1

theorem Heard.learn (heard : Heard pending map) {name : String} (none : map.waiting name = []) :
    Heard pending (map.learn name) := by
  refine { heard with known := fun other isKnown => ?_ }
  rcases List.mem_insert_iff.mp isKnown with rfl | wasKnown
  · exact none
  · exact heard.known other wasKnown

theorem Heard.resolveEntitiesForType (heard : Heard pending map) (name : String) :
    Heard pending (map.resolveEntitiesForType name) := by
  have resolved := heard.stopWaiting name
  have known : Heard pending { map with
      types := map.types.insert name
      unresolvedEntities := map.unresolvedEntities.filter (·.1 ≠ name) } := by
    refine ⟨resolved.ids, resolved.allocated, resolved.told, resolved.regular, resolved.gone,
      resolved.waits, resolved.once, resolved.nodup, ?_⟩
    intro other isKnown
    have erased := waiting_erase map name other
    rcases List.mem_insert_iff.mp isKnown with rfl | wasKnown
    · exact erased.trans (if_pos rfl)
    · exact resolved.known other wasKnown
  unfold MemMap.resolveEntitiesForType
  dsimp only
  rw [unresolved_foldl_giveType, ← foldl_giveType_unresolved]
  apply known.giveTypes (heard.nodup name)
  intro ref isWaiting
  obtain ⟨isHeld, untyped⟩ := heard.waits name ref isWaiting
  refine ⟨isHeld, untyped, ?_⟩
  intro other waitsStill
  have erased := waiting_erase map name other
  have waitsOther : ref ∈ if other = name then [] else map.waiting other := by
    rw [← erased]
    exact waitsStill
  split at waitsOther
  · cases waitsOther
  · rename_i different
    exact different (heard.once other name ref waitsOther isWaiting)

/-- Nothing known or waiting is removed, no type comes from another mind while an entity waits for
it, and no iterator is left behind by `flush`. -/
def Steady (map : MemMap) : MemEvent → Prop
  | .update ent _ =>
    ∀ id ref, ent.id = some id → map.find (integerId id) = some ref → map.Expects ref ent
  | .del id =>
    ∀ ref, map.find (integerId id) = some ref → ∀ name, ref ∈ map.waiting name → name = id
  | .check time =>
    ∀ key ref, map.checkIterator = some key → map.find key = some ref →
      map.isExpired ref time = false
  | .learn name => map.waiting name = []
  | .flush => map.checkIterator = none ∧ ∀ ref, map.Registered ref → map.Fresh ref
  | _ => True

section

variable (heard : Heard none map)

include heard

theorem Heard.updateAdd {time : Rat} (running : map.crashed = false)
    (steady : map.Steady (.update ent time)) :
    Heard none (map.updateAdd ent time) := by
  have seen : ∀ (current : MemMap) (ref : Nat), Heard none current →
      Heard none (current.seen ref time) := by
    intro current ref heardNow
    exact heardNow.of_quiet (quiet_modify current ref _ (fun _ => rfl) (fun _ => rfl))
  unfold MemMap.updateAdd
  split
  · exact heard
  · rename_i id isId
    split
    · exact heard
    · split
      · exact heard
      · split
        · rename_i absent
          exact seen _ _ (heard.newEntity running absent)
        · rename_i ref known
          apply seen
          exact heard.updateEntity (heard.held_of_find known) (steady id ref isId known)

theorem Heard.check {time : Rat} (steady : map.Steady (.check time)) :
    Heard none (map.check time) := by
  have quiet : ∀ iterator, Heard none { map with checkIterator := iterator } := by
    intro iterator
    exact heard.of_quiet ⟨fun _ => rfl, fun _ => rfl, fun _ => rfl, rfl, fun _ => rfl, rfl, rfl⟩
  unfold MemMap.check
  split
  · exact quiet _
  · rename_i key isKey
    split
    · exact heard
    · rename_i ref found
      dsimp only
      rw [if_neg]
      · exact quiet _
      · rw [steady key ref isKey found]
        exact Bool.false_ne_true

theorem Heard.flush (fresh : ∀ ref, map.Registered ref → map.Fresh ref) : Heard none map.flush := by
  have notHeld : ∀ ref, ¬map.flush.Held none ref := by
    rintro ref (isRegistered | isPending)
    · cases isRegistered
    · cases isPending
  have isFresh : ∀ ref, map.Held none ref → map.Fresh ref := by
    rintro ref (isRegistered | isPending)
    · exact fresh ref isRegistered
    · cases isPending
  refine ⟨?_, ?_, ?_, heard.regular, ?_, ?_, heard.once, heard.nodup, heard.known⟩
  · intro id ref found
    cases found
  · intro ref isHeld
    exact absurd isHeld (notHeld ref)
  · intro ref
    apply (heard.told ref).trans
    constructor
    · rintro ⟨isHeld, typed⟩
      rw [(isFresh ref isHeld).1] at typed
      cases typed
    · rintro ⟨isHeld, -⟩
      exact absurd isHeld (notHeld ref)
  · intro ref isGone
    exact ⟨(heard.gone ref isGone).1, notHeld ref⟩
  · intro name ref isWaiting
    exact absurd isWaiting ((isFresh ref (heard.waits name ref isWaiting).1).2 name)

theorem Heard.step {event : MemEvent} (steady : map.Steady event) :
    Heard none (map.step event) := by
  unfold MemMap.step
  split
  · exact heard
  · rename_i running
    rw [Bool.not_eq_true] at running
    cases event with
    | update ent time => exact heard.updateAdd running steady
    | getAdd id => exact (getAdd_heard heard id 0).1
    | setVisible id isVisible =>
      dsimp only
      split
      · exact heard
      · exact heard.of_quiet (quiet_modify map _ _ (fun _ => rfl) (fun _ => rfl))
    | del id => exact heard.del steady
    | check time => exact heard.check steady
    | resolve name => exact heard.resolveEntitiesForType name
    | learn name => exact heard.learn steady
    | flush => exact heard.flush steady.2

end

variable (types : List String)

theorem Heard.start : Heard none (start types) := by
  have notHeld : ∀ ref, ¬(MemMap.start types).Held none ref := by
    rintro ref (isRegistered | isPending)
    · cases isRegistered
    · cases isPending
  constructor
  · intro id ref found
    cases found
  · intro ref isHeld
    exact absurd isHeld (notHeld ref)
  · intro ref
    constructor
    · intro isTold
      cases isTold
    · rintro ⟨isHeld, -⟩
      exact absurd isHeld (notHeld ref)
  · intro first call rest split
    exact absurd split.symm (by simp [MemMap.start])
  · intro ref isGone
    cases isGone
  · intro name ref isWaiting
    cases isWaiting
  · intro name other ref isWaiting
    cases isWaiting
  · intro name
    exact nodup_nil
  · intro name _
    rfl

/-- The listener knows what has a type in memory after every run whose steps meet the condition. -/
theorem run_inStep {events : List MemEvent}
    (steady : Admissible step Steady (start types) events) :
    (run step (start types) events).InStep := by
  have heard : Heard none (run step (start types) events) := by
    apply run_invariant (Heard none) _ (Heard.start types) steady
    intro map event heardNow steadyNow
    exact heardNow.step steadyNow
  refine ⟨?_, heard.regular⟩
  intro ref
  rw [heard.told, Held]
  simp

/-- A message that names a type. -/
def isA (id parent : String) : MemEvent :=
  .update ⟨some id, none, some parent, []⟩ 0

/-- The type comes late; then it is deleted. -/
theorem run_inStep_resolved_deleted :
    (run step (start []) [isA "1" "oak", .resolve "oak", .check 601, .del "1"]).InStep := by
  apply run_inStep
  refine ⟨?_, trivial, ?_, ?_, trivial⟩
  · intro id ref isId found
    cases isId
    cases found
  · intro key ref isKey
    have notSet : (run step (start []) [isA "1" "oak", .resolve "oak"]).checkIterator = none := by
      decide +kernel
    rw [show step _ _ = run step (start []) [isA "1" "oak", .resolve "oak"] from rfl, notSet]
      at isKey
    cases isKey
  · intro ref _ name isWaiting
    have resolved : (run step (start [])
        [isA "1" "oak", .resolve "oak", .check 601]).unresolvedEntities = [] := by
      decide +kernel
    have waits : ref ∈ (run step (start [])
        [isA "1" "oak", .resolve "oak", .check 601]).waiting name := isWaiting
    rw [waiting, resolved] at waits
    cases waits

/-- What was not seen is forgotten, untold. -/
theorem run_forgets_silently :
    ¬(run step (start ["oak"]) [isA "1" "oak", .check 601, .check 601]).InStep := by
  intro inStep
  have known := (inStep.told 0).mp (by decide +kernel)
  revert known
  decide +kernel

end MemMap

end Cyphesis.Ai
