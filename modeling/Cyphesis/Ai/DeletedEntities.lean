import Cyphesis.Ai.MemListener

/-!
# Deleted entities

What was deleted is no longer in `m_entities`; only a message that names the id makes a new one.
-/

namespace Cyphesis.Ai

open Cyphesis.Foundation List
open Cyphesis.Server (integerId)

/-- Ids in a message, each of an entity. -/
def EntityMessage.ids (ent : EntityMessage) : List String :=
  ent.id.toList ++ ent.loc.toList ++ ent.contains

namespace MemMap

def MemEvent.ids : MemEvent → List String
  | .update ent _ => ent.ids
  | .getAdd id => [id]
  | _ => []

/-- The event names an entity. -/
def MemEvent.Names (event : MemEvent) (key : Int) : Prop :=
  ∃ id ∈ event.ids, integerId id = key

variable {map before after : MemMap} {ids : List String} {own : Nat → Prop}

/-- What `resolveEntitiesForType` returns. -/
def resolvedEntities (map : MemMap) (name : String) : List Nat :=
  if map.crashed then [] else map.waiting name

/-- The entity is not returned or told of. -/
structure Unresolved (map : MemMap) (ref : Nat) (name : String) : Prop where
  returned : ref ∉ map.resolvedEntities name
  typed : ((map.step (.resolve name)).objects ref).type = (map.objects ref).type
  reported : ∃ calls, (map.step (.resolve name)).calls = map.calls ++ calls ∧
    .entityAdded ref ∉ calls

/-- No later type concerns the entity. -/
def StaysDeleted (map : MemMap) (id : String) : Prop :=
  map.crashed = false → ∀ ref, map.find (integerId id) = some ref → ∀ events : List MemEvent,
    (∀ name, (run step (map.step (.del id)) events).Unresolved ref name) ∧
      ∀ other, (run step (map.step (.del id)) events).find (integerId id) = some other →
        map.nextObject ≤ other ∧ other ≠ ref ∧ ∃ event ∈ events, event.Names (integerId id)

/-- Types it waits for are spelled like its id. -/
def WaitsForNoType (map : MemMap) (id : String) : Prop :=
  map.crashed = false → ∀ ref, map.find (integerId id) = some ref →
    ∀ name, name ≠ id → ref ∉ map.waiting name

/-- New objects are numbered on. -/
structure Extends (ids : List String) (own : Nat → Prop) (before after : MemMap) : Prop where
  next : before.nextObject ≤ after.nextObject
  id : ∀ ref < before.nextObject, (after.objects ref).id = (before.objects ref).id
  find : ∀ key ref, after.find key = some ref → before.find key = some ref ∨
    before.nextObject ≤ ref ∧ ref < after.nextObject ∧ (after.objects ref).id = key ∧
      ∃ id ∈ ids, integerId id = key
  waiting : ∀ name, ∀ ref ∈ after.waiting name,
    ref ∈ before.waiting name ∨ before.nextObject ≤ ref ∨ own ref

theorem Extends.refl (ids : List String) (own : Nat → Prop) (map : MemMap) :
    Extends ids own map map :=
  ⟨Nat.le_refl _, fun _ _ => rfl, fun _ _ => .inl, fun _ _ => .inl⟩

theorem Extends.trans {middle : MemMap} (first : Extends ids own before middle)
    (second : Extends ids own middle after) : Extends ids own before after := by
  constructor
  · exact first.next.trans second.next
  · intro ref isOld
    rw [second.id ref (isOld.trans_le first.next), first.id ref isOld]
  · intro key ref found
    rcases second.find key ref found with known | ⟨isNew, allocated, ownId, named⟩
    · rcases first.find key ref known with known | ⟨isNew, allocated, ownId, named⟩
      · exact .inl known
      · refine .inr ⟨isNew, allocated.trans_le second.next, ?_, named⟩
        rw [second.id ref allocated]
        exact ownId
    · exact .inr ⟨first.next.trans isNew, allocated, ownId, named⟩
  · intro name ref waits
    rcases second.waiting name ref waits with waited | isNew | isOwn
    · exact first.waiting name ref waited
    · exact .inr (.inl (first.next.trans isNew))
    · exact .inr (.inr isOwn)

theorem Quiet.extends (quiet : Quiet before after) (ids : List String) (own : Nat → Prop) :
    Extends ids own before after := by
  refine ⟨quiet.next.ge, fun ref _ => quiet.id ref, ?_, ?_⟩
  · intro key ref found
    rw [quiet.find] at found
    exact .inl found
  · intro name ref waits
    rw [quiet.waiting] at waits
    exact .inl waits

theorem extends_giveType (map : MemMap) (ref : Nat) (name : String) :
    Extends ids own map (map.giveType ref name) := by
  refine ⟨Nat.le_refl _, ?_, fun _ _ => .inl, fun _ _ => .inl⟩
  intro other _
  have same : ∀ entity : MemEntity, { entity with type := some name }.id = entity.id :=
    fun _ => rfl
  exact id_modify map ref same other

variable {ref : Nat} {id : String}

theorem extends_readType (isOwn : own ref ∨ map.nextObject ≤ ref) (parent : String) :
    Extends ids own map (map.readType ref parent) := by
  unfold readType
  split
  · exact Extends.refl ids own map
  · split
    · exact extends_giveType map ref parent
    · refine ⟨Nat.le_refl _, fun _ _ => rfl, fun _ _ => .inl, ?_⟩
      intro name other waits
      rw [waiting_insert] at waits
      split at waits
      · rename_i same
        rcases List.mem_insert_iff.mp waits with rfl | waited
        · exact .inr isOwn.symm
        · rw [same]
          exact .inl waited
      · exact .inl waits

theorem extends_allocate (map : MemMap) (id : Int) : Extends ids own map (map.allocate id) := by
  refine ⟨Nat.le_succ _, ?_, fun _ _ => .inl, fun _ _ => .inl⟩
  intro ref isOld
  rw [objects_allocate, if_neg (Nat.ne_of_lt isOld)]

theorem Extends.addEntity (extended : Extends ids own before after)
    (isNew : before.nextObject ≤ ref) (allocated : ref < after.nextObject)
    (ownId : (after.objects ref).id = integerId id) (named : id ∈ ids) :
    Extends ids own before (after.addEntity ref) where
  next := extended.next
  id := extended.id
  find := by
    intro key other found
    rw [find_addEntity] at found
    split at found
    · rename_i same
      cases found
      exact .inr ⟨isNew, allocated, same.symm, id, named, by rw [same, ownId]⟩
    · exact extended.find key other found
  waiting := extended.waiting

section

variable (map)

theorem extends_getAdd (named : id ∈ ids) : Extends ids own map (map.getAdd id).1 := by
  unfold getAdd
  split
  · exact Extends.refl ids own map
  · split
    · exact Extends.refl ids own map
    · split
      · exact Extends.refl ids own map
      · apply (extends_allocate map (integerId id)).addEntity (Nat.le_refl _)
          (Nat.lt_succ_self _) _ named
        rw [objects_allocate, if_pos rfl]

theorem extends_addContents {contlist : List String} (named : contlist ⊆ ids) :
    Extends ids own map (map.addContents contlist) := by
  unfold addContents
  induction contlist generalizing map with
  | nil => exact Extends.refl ids own map
  | cons child rest ih =>
    have first : Extends ids own map (map.getAdd child).1 :=
      extends_getAdd map (named mem_cons_self)
    exact first.trans (ih _ fun other isRest => named (mem_cons_of_mem child isRest))

theorem extends_readLoc (ref : Nat) {loc : String} (named : loc ∈ ids) :
    Extends ids own map (map.readLoc ref loc) := by
  have added : Extends ids own map (map.getAdd loc).1 := extends_getAdd map named
  unfold readLoc
  split
  · exact Extends.refl ids own map
  · split
    · exact Extends.refl ids own map
    · split
      · exact ⟨Nat.le_refl _, fun _ _ => rfl, fun _ _ => .inl, fun _ _ => .inl⟩
      · rename_i isAdded
        rw [isAdded] at added
        exact added.trans ((quiet_hang _ _ _).extends ids own)

theorem extends_readEntity (isOwn : own ref) (ent : EntityMessage) :
    Extends ent.ids own map (map.readEntity ref ent) := by
  have located : Extends ent.ids own map (ent.loc.elim map (map.readLoc ref)) := by
    cases isLoc : ent.loc with
    | none => exact Extends.refl _ _ map
    | some loc => exact extends_readLoc map ref (by simp [EntityMessage.ids, isLoc])
  unfold readEntity
  dsimp only
  split
  · exact located
  · have typed : Extends ent.ids own (ent.loc.elim map (map.readLoc ref))
        (ent.parent.elim (ent.loc.elim map (map.readLoc ref))
          ((ent.loc.elim map (map.readLoc ref)).readType ref)) := by
      cases ent.parent with
      | none => exact Extends.refl _ _ _
      | some parent => exact extends_readType (.inl isOwn) parent
    exact (located.trans typed).trans
      (extends_addContents _ fun child isChild => mem_append_right _ isChild)

theorem extends_updateEntity (isOwn : own ref) (ent : EntityMessage) :
    Extends ent.ids own map (map.updateEntity ref ent) := by
  have read := extends_readEntity map isOwn ent
  unfold updateEntity
  dsimp only
  split
  · exact read.trans ⟨Nat.le_refl _, fun _ _ => rfl, fun _ _ => .inl, fun _ _ => .inl⟩
  · exact read

theorem extends_newEntity (own : Nat → Prop) {ent : EntityMessage}
    (isId : ent.id = some id) : Extends ent.ids own map (map.newEntity (integerId id) ent) := by
  have allocated : Extends ent.ids (fun ref => own ref ∨ ref = map.nextObject) map
      (map.allocate (integerId id)) := extends_allocate map _
  have read := allocated.trans (extends_readEntity _ (.inr rfl) ent)
  have readOwn : Extends ent.ids own map
      ((map.allocate (integerId id)).readEntity map.nextObject ent) := by
    refine ⟨read.next, read.id, read.find, ?_⟩
    intro name ref waits
    rcases read.waiting name ref waits with waited | isNew | isOwn | rfl
    · exact .inl waited
    · exact .inr (.inl isNew)
    · exact .inr (.inr isOwn)
    · exact .inr (.inl (Nat.le_refl _))
  have ownRead : Extends ent.ids (fun _ => True) (map.allocate (integerId id))
      ((map.allocate (integerId id)).readEntity map.nextObject ent) :=
    extends_readEntity _ trivial ent
  unfold newEntity
  dsimp only
  split
  · exact readOwn
  · apply readOwn.addEntity (Nat.le_refl _) (Nat.lt_of_succ_le ownRead.next) _
      (by simp [EntityMessage.ids, isId] : id ∈ ent.ids)
    rw [ownRead.id _ (Nat.lt_succ_self _), objects_allocate, if_pos rfl]

theorem extends_updateAdd (ent : EntityMessage) (time : Rat) :
    Extends ent.ids (fun ref => ∃ key, map.find key = some ref) map (map.updateAdd ent time) := by
  have seen : ∀ (map : MemMap) (ref : Nat), Quiet map (map.seen ref time) :=
    fun map ref => quiet_modify map ref _ (fun _ => rfl) (fun _ => rfl)
  unfold updateAdd
  split
  · exact Extends.refl _ _ map
  · rename_i id isId
    split
    · exact Extends.refl _ _ map
    · split
      · exact Extends.refl _ _ map
      · split
        · exact (extends_newEntity map _ isId).trans ((seen _ _).extends _ _)
        · rename_i ref found
          exact (extends_updateEntity map ⟨_, found⟩ ent).trans ((seen _ _).extends _ _)

theorem extends_del (id : String) : Extends ids own map (map.del id) := by
  have erased : ∀ key ref, (map.entities.filter (·.1 ≠ integerId id)).lookup key = some ref →
      map.find key = some ref := by
    intro key ref found
    rw [lookup_filter_ne] at found
    split at found
    · cases found
    · exact found
  have stopped : ∀ name, ∀ ref ∈
      { map with unresolvedEntities := map.unresolvedEntities.filter (·.1 ≠ id) }.waiting name,
      ref ∈ map.waiting name := by
    intro name ref waits
    rw [waiting_erase] at waits
    split at waits
    · cases waits
    · exact waits
  unfold del
  dsimp only
  split
  · exact ⟨Nat.le_refl _, fun _ _ => rfl, fun _ _ => .inl, fun name ref waits =>
      .inl (stopped name ref waits)⟩
  · refine Extends.trans ?_ ((quiet_destroy _ _ _).extends ids own)
    exact ⟨Nat.le_refl _, fun _ _ => rfl, fun key ref found => .inl (erased key ref found),
      fun name ref waits => .inl (stopped name ref waits)⟩

theorem extends_check (time : Rat) : Extends ids own map (map.check time) := by
  unfold check
  split
  · exact ⟨Nat.le_refl _, fun _ _ => rfl, fun _ _ => .inl, fun _ _ => .inl⟩
  · split
    · exact Extends.refl ids own map
    · dsimp only
      split
      · refine Extends.trans ?_ ((quiet_unlink _ _).extends ids own)
        refine ⟨Nat.le_refl _, fun _ _ => rfl, ?_, fun _ _ => .inl⟩
        intro key ref found
        unfold find at found
        dsimp only at found
        rw [lookup_filter_ne] at found
        split at found
        · cases found
        · exact .inl found
      · exact ⟨Nat.le_refl _, fun _ _ => rfl, fun _ _ => .inl, fun _ _ => .inl⟩

theorem extends_giveTypes (name : String) (refs : List Nat) :
    Extends ids own map (refs.foldl (fun current ref => current.giveType ref name) map) := by
  induction refs generalizing map with
  | nil => exact Extends.refl ids own map
  | cons ref rest ih => exact (extends_giveType map ref name).trans (ih _)

theorem extends_learn (name : String) : Extends ids own map (map.learn name) :=
  ⟨Nat.le_refl _, fun _ _ => rfl, fun _ _ => .inl, fun _ _ => .inl⟩

theorem extends_resolve (name : String) :
    Extends ids own map (map.resolveEntitiesForType name) := by
  refine ((extends_learn map name).trans (extends_giveTypes _ name (map.waiting name))).trans ?_
  refine ⟨Nat.le_refl _, fun _ _ => rfl, fun _ _ => .inl, ?_⟩
  intro other ref waits
  unfold resolveEntitiesForType at waits
  rw [waiting_erase] at waits
  split at waits
  · cases waits
  · exact .inl waits

theorem extends_step (event : MemEvent) :
    Extends event.ids (fun ref => ∃ key, map.find key = some ref) map (map.step event) := by
  unfold step
  cases map.crashed with
  | true => exact Extends.refl _ _ map
  | false =>
    simp only [Bool.false_eq_true, if_false]
    cases event with
    | update ent time => exact extends_updateAdd map ent time
    | getAdd id => exact extends_getAdd map (mem_singleton_self id)
    | setVisible id isVisible =>
      dsimp only
      split
      · exact Extends.refl _ _ map
      · exact (quiet_modify map _ (fun entity => { entity with isVisible := isVisible })
          (fun _ => rfl) (fun _ => rfl)).extends _ _
    | del id => exact extends_del map id
    | check time => exact extends_check map time
    | resolve name => exact extends_resolve map name
    | learn name => exact extends_learn map name
    | flush =>
      refine ⟨Nat.le_refl _, fun _ _ => rfl, ?_, fun _ _ => .inl⟩
      intro key ref found
      cases found

end

/-- An entity has its own id. -/
def Placed (map : MemMap) : Prop :=
  ∀ key ref, map.find key = some ref → (map.objects ref).id = key ∧ ref < map.nextObject

theorem Placed.step (placed : Placed map) (event : MemEvent) : Placed (map.step event) := by
  have extended := extends_step map event
  intro key ref found
  rcases extended.find key ref found with known | ⟨-, allocated, ownId, -⟩
  · rcases placed key ref known with ⟨ownId, allocated⟩
    rw [extended.id ref allocated]
    exact ⟨ownId, allocated.trans_le extended.next⟩
  · exact ⟨ownId, allocated⟩

variable (types : List String) (events : List MemEvent)

theorem placed_run : Placed (run step (start types) events) := by
  apply run_invariant_of_step Placed fun map event placed => placed.step event
  intro key ref found
  cases found

/-- The entity is not in the map, and waits for no type. -/
structure Gone (map : MemMap) (ref : Nat) : Prop where
  allocated : ref < map.nextObject
  find : ∀ key, map.find key ≠ some ref
  waiting : ∀ name, ref ∉ map.waiting name

theorem Gone.step (gone : Gone map ref) (event : MemEvent) : Gone (map.step event) ref := by
  have extended := extends_step map event
  constructor
  · exact gone.allocated.trans_le extended.next
  · intro key found
    rcases extended.find key ref found with known | ⟨isNew, -⟩
    · exact gone.find key known
    · exact absurd gone.allocated (not_lt.mpr isNew)
  · intro name waits
    rcases extended.waiting name ref waits with waited | isNew | ⟨key, known⟩
    · exact gone.waiting name waited
    · exact absurd gone.allocated (not_lt.mpr isNew)
    · exact gone.find key known

section

variable (map) (name : String)

theorem type_giveTypes {refs : List Nat} (isOther : ref ∉ refs) :
    ((refs.foldl (fun current other => current.giveType other name) map).objects ref).type =
      (map.objects ref).type := by
  induction refs generalizing map with
  | nil => rfl
  | cons first rest ih =>
    rcases not_or.mp fun either => isOther (List.mem_cons.mpr either) with ⟨different, notLater⟩
    rw [foldl_cons, ih _ notLater, type_giveType, if_neg different]

theorem calls_giveTypes (refs : List Nat) :
    (refs.foldl (fun current ref => current.giveType ref name) map).calls =
      map.calls ++ refs.map .entityAdded := by
  induction refs generalizing map with
  | nil => rw [foldl_nil, map_nil, append_nil]
  | cons first rest ih =>
    rw [foldl_cons, ih, map_cons]
    exact append_assoc map.calls [.entityAdded first] _

end

theorem Gone.unresolved (gone : Gone map ref) (name : String) : map.Unresolved ref name := by
  have notWaiting := gone.waiting name
  constructor
  · unfold resolvedEntities
    split
    · exact not_mem_nil
    · exact notWaiting
  · unfold MemMap.step
    split
    · rfl
    · exact type_giveTypes _ name notWaiting
  · unfold MemMap.step
    split
    · exact ⟨[], (append_nil _).symm, not_mem_nil⟩
    · refine ⟨(map.waiting name).map .entityAdded, calls_giveTypes _ name _, ?_⟩
      intro isAdded
      rcases List.mem_map.mp isAdded with ⟨other, waits, same⟩
      cases same
      exact notWaiting waits

theorem find_run {key : Int}
    (found : (run step map events).find key = some ref) :
    map.find key = some ref ∨
      map.nextObject ≤ ref ∧ ∃ event ∈ events, event.Names key := by
  induction events generalizing map with
  | nil => exact .inl found
  | cons event rest ih =>
    have extended := extends_step map event
    rcases ih found with known | ⟨isNew, later, isLater, named⟩
    · rcases extended.find key ref known with known | ⟨isNew, -, -, named⟩
      · exact .inl known
      · exact .inr ⟨isNew, event, mem_cons_self, named⟩
    · exact .inr ⟨extended.next.trans isNew, later, mem_cons_of_mem event isLater, named⟩

theorem crashed_unlink (map : MemMap) (ref : Nat) : (map.unlink ref).crashed = map.crashed := by
  unfold unlink
  cases map.parentOf ref with
  | none => rfl
  | some above => rfl

theorem crashed_destroy (depth : Nat) (map : MemMap) (ref : Nat) :
    (destroy depth map ref).crashed = map.crashed := by
  induction depth generalizing map ref with
  | zero => rfl
  | succ depth ih =>
    unfold destroy
    apply run_invariant_of_step fun current : MemMap => current.crashed = map.crashed
    · intro current child same
      rw [ih, same]
    · exact crashed_unlink map ref

theorem del_eq (found : map.find (integerId id) = some ref) :
    (map.del id).crashed = map.crashed ∧ (map.del id).nextObject = map.nextObject ∧
      (∀ key, (map.del id).find key = if key = integerId id then none else map.find key) ∧
      ∀ name, (map.del id).waiting name = if name = id then [] else map.waiting name := by
  have isFound : { map with
      unresolvedEntities := map.unresolvedEntities.filter (·.1 ≠ id) }.find (integerId id) =
        some ref := found
  unfold del
  simp only [isFound]
  have quiet := quiet_destroy (map.nextObject + 2)
  refine ⟨crashed_destroy _ _ ref, (quiet _ ref).next, ?_, ?_⟩
  · intro key
    rw [(quiet _ ref).find]
    exact lookup_filter_ne map.entities (integerId id) key
  · intro name
    rw [(quiet _ ref).waiting]
    exact waiting_erase map id name

theorem Placed.gone_del (placed : Placed map) (found : map.find (integerId id) = some ref)
    (waitsNot : ∀ name, name ≠ id → ref ∉ map.waiting name) : Gone (map.del id) ref := by
  rcases del_eq found with ⟨-, next, finds, waits⟩
  constructor
  · rw [next]
    exact (placed _ ref found).2
  · intro key isFound
    rw [finds] at isFound
    split at isFound
    · cases isFound
    · rename_i different
      exact different ((placed key ref isFound).1.symm.trans (placed _ ref found).1)
  · intro name isWaiting
    rw [waits] at isWaiting
    split at isWaiting
    · cases isWaiting
    · rename_i different
      exact waitsNot name different isWaiting

/-- An entity that is deleted is gone for good, in every run after it, exactly if it waits for no
type. -/
theorem staysDeleted_iff (id : String) :
    StaysDeleted (run step (start types) events) id ↔
      WaitsForNoType (run step (start types) events) id := by
  have placed := placed_run types events
  generalize run step (start types) events = map at placed
  have deletes : map.crashed = false → map.step (.del id) = map.del id := by
    intro running
    rw [step, running]
    rfl
  constructor
  · intro stays running ref found name different waits
    have returned := ((stays running ref found []).1 name).returned
    rcases del_eq found with ⟨crashed, -, -, waiting⟩
    rw [run_nil, deletes running, resolvedEntities, crashed, running, waiting,
      if_neg different] at returned
    exact returned waits
  · intro waitsNot running ref found later
    have gone := placed.gone_del found (waitsNot running ref found)
    rcases del_eq found with ⟨-, next, finds, -⟩
    rw [deletes running]
    have goneLater : Gone (run step (map.del id) later) ref :=
      run_invariant_of_step (Gone · ref) (fun current event isGone => isGone.step event) gone later
    refine ⟨goneLater.unresolved, ?_⟩
    intro other isFound
    have different : other ≠ ref := by
      rintro rfl
      exact goneLater.find _ isFound
    rcases find_run later isFound with known | ⟨isNew, named⟩
    · rw [finds, if_pos rfl] at known
      cases known
    · rw [next] at isNew
      exact ⟨isNew, different, named⟩

/-- A deleted entity's type comes. -/
theorem deleted_waiting_is_resolved : ¬StaysDeleted (run step (start []) [isA "7" "oak"]) "7" := by
  intro stays
  have returned := ((stays (by decide) 0 (by decide) []).1 "oak").returned
  exact returned (by decide)

/-- What is in the map was named, and is there once. -/
def NamedOnce (events : List MemEvent) (map : MemMap) : Prop :=
  ∀ key ref, map.find key = some ref →
    (∃ event ∈ events, event.Names key) ∧ ∀ other, map.find other = some ref → other = key

/-- A mind remembers only what an event has named, each under one id. -/
theorem run_namedOnce (types : List String) (events : List MemEvent) :
    NamedOnce events (run step (start types) events) := by
  intro key ref found
  have placed := placed_run types events
  constructor
  · rcases find_run events found with before | ⟨-, named⟩
    · cases before
    · exact named
  · intro other again
    have own := (placed key ref found).1
    have ownOther := (placed other ref again).1
    exact ownOther.symm.trans own

end MemMap

end Cyphesis.Ai
