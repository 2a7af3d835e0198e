import Cyphesis.Foundation.Run
import Mathlib.Data.List.Sort

/-!
# What a container knows of its observers

The registration of an observer is kept in the container's entry, in a property of the observer, and
in the domains around.
-/

namespace Cyphesis.Simulation

open Cyphesis.Foundation List
open Function

/-- An id for `setObservers`, and how it goes. -/
structure ObserverRequest where
  id : String
  /-- `none` on a refusal. -/
  closeness : Option Nat
  /-- `canReach` of the observer. -/
  canReach : Bool

/-- `ObservationEntry`, as far as it goes here. -/
structure ObserverEntry where
  id : String
  disconnectFunctions : List Nat
  observedEntities : List String

structure ContainerObservers where
  contains : List String
  /-- `m_reachingEntities`, in the order of the ids -/
  reachingEntities : List ObserverEntry
  /-- It is among their active ones. -/
  activeContainers : List String
  /-- With their observers. -/
  observations : Nat → Option String
  next : Nat

/-- What happens to a container and to those who look into it. -/
inductive ObserverEvent where
  | setObservers (observerIds : List ObserverRequest)
  /-- A domain finds that the observer has left. -/
  | sever (observation : Nat)
  /-- It joins a stack, and is gone. -/
  | addEntity (child : String) (stacked : Bool)
  | removeEntity (child : String)

namespace ContainerObservers

-- Whether an entity sees a thing in the container without being an observer: it is the
-- container, it is an administrator, or the thing is visible although it is contained.
variable (always : String → String → Bool)

def initial : ContainerObservers :=
  { contains := [], reachingEntities := [], activeContainers := [], observations := fun _ => none,
    next := 0 }

def hasObserverRegistered (table : ContainerObservers) (id : String) : Bool :=
  table.reachingEntities.any (·.id = id)

def isEntityVisibleFor (table : ContainerObservers) (id child : String) : Bool :=
  always id child || table.hasObserverRegistered id

def getVisibleEntitiesFor (table : ContainerObservers) (request : ObserverRequest) : List String :=
  if request.canReach then
    table.contains.filter (table.isEntityVisibleFor always request.id)
  else []

/-- `m_reachingEntities[entityId]` -/
def requireEntry (table : ContainerObservers) (id : String) : ContainerObservers :=
  if table.hasObserverRegistered id then table
  else
    { table with
      reachingEntities := table.reachingEntities.orderedInsert
        (fun first second => first.id ≤ second.id) ⟨id, [], []⟩ }

/-- `addObserver`. New addresses begin with `next`. -/
def addObserver (table : ContainerObservers) (request : ObserverRequest) : ContainerObservers :=
  match request.closeness with
  | none => table
  | some count =>
    let entered :=
      { table.requireEntry request.id with
        activeContainers :=
          if request.id ∈ table.activeContainers then table.activeContainers
          else request.id :: table.activeContainers
        observations := fun observation =>
          if table.next ≤ observation ∧ observation < table.next + count then some request.id
          else table.observations observation
        next := table.next + count }
    { entered with
      reachingEntities := entered.reachingEntities.map fun entry =>
        if entry.id = request.id then
          { entry with
            disconnectFunctions := List.range' table.next count
            observedEntities :=
              entry.observedEntities ++ entered.getVisibleEntitiesFor always request }
        else entry }

/-- A disconnect function is called. -/
def disconnect (table : ContainerObservers) (observation : Nat) : ContainerObservers :=
  { table with observations := update table.observations observation none }

def removeObserver (table : ContainerObservers) (id : String) : ContainerObservers :=
  match table.reachingEntities.find? (·.id = id) with
  | none => table
  | some entry =>
    let disconnected := entry.disconnectFunctions.foldl disconnect
      { table with reachingEntities := table.reachingEntities.filter (·.id ≠ id) }
    { disconnected with activeContainers := disconnected.activeContainers.filter (· ≠ id) }

/-- Registered ids are crossed off. -/
def setObservers (table : ContainerObservers) (observerIds : List ObserverRequest) :
    ContainerObservers :=
  let (left, added) := observerIds.foldl
    (fun (existing, current) request =>
      if request.id ∈ existing then (existing.erase request.id, current)
      else (existing, addObserver always current request))
    (table.reachingEntities.map (·.id), table)
  left.foldl removeObserver added

/-- `removeEntity`, after which it is no child. -/
def removeEntity (table : ContainerObservers) (child : String) : ContainerObservers :=
  { table with
    contains := table.contains.filter (· ≠ child)
    reachingEntities := table.reachingEntities.map fun entry =>
      { entry with observedEntities := entry.observedEntities.filter (· ≠ child) } }

def addEntity (table : ContainerObservers) (child : String) : ContainerObservers :=
  { table with
    contains := child :: table.contains
    reachingEntities := table.reachingEntities.map fun entry =>
      { entry with observedEntities := entry.observedEntities ++ [child] } }

/-- What is moved leaves its place first. -/
def step (table : ContainerObservers) : ObserverEvent → ContainerObservers
  | .setObservers observerIds => table.setObservers always observerIds
  | .sever observation =>
    match table.observations observation with
    | none => table
    | some id => (table.disconnect observation).removeObserver id
  | .addEntity child stacked =>
    if stacked then table.removeEntity child else (table.removeEntity child).addEntity child
  | .removeEntity child => table.removeEntity child

/-- Visible children are seen once. -/
structure Settled (table : ContainerObservers) : Prop where
  active : ∀ id, table.hasObserverRegistered id = true ↔ id ∈ table.activeContainers
  once : ∀ entry ∈ table.reachingEntities, entry.observedEntities.Nodup
  visible : ∀ entry ∈ table.reachingEntities, ∀ child, child ∈ entry.observedEntities ↔
    child ∈ table.contains ∧ table.isEntityVisibleFor always entry.id child = true
  released : ∀ observation id, table.observations observation = some id →
    ∃ entry ∈ table.reachingEntities, entry.id = id ∧ observation ∈ entry.disconnectFunctions

/-- Requests that are not crossed off. -/
def asked : List String → List ObserverRequest → List ObserverRequest
  | _, [] => []
  | existing, request :: rest =>
    if request.id ∈ existing then asked (existing.erase request.id) rest
    else request :: asked existing rest

/-- The observers that the domains around agree to. -/
def accepted (table : ContainerObservers) (observerIds : List ObserverRequest) :
    List ObserverRequest :=
  (asked (table.reachingEntities.map (·.id)) observerIds).filter (·.closeness.isSome)

/-- Observers are added once, when they can reach. -/
def AddedOnce (table : ContainerObservers) : ObserverEvent → Prop
  | .setObservers observerIds =>
    ((table.accepted observerIds).map (·.id)).Nodup ∧
      ∀ request ∈ table.accepted observerIds, table.hasObserverRegistered request.id = false ∧
        (request.canReach = true ∨ table.contains = [])
  | _ => True

instance (table : ContainerObservers) : ∀ event, Decidable (table.AddedOnce event)
  | .setObservers _ => inferInstanceAs (Decidable (_ ∧ _))
  | .sever _ => isTrue trivial
  | .addEntity _ _ => isTrue trivial
  | .removeEntity _ => isTrue trivial

/-- There is one entry for an id, and no child is observed twice. -/
structure Kept (table : ContainerObservers) : Prop where
  active : ∀ id, table.hasObserverRegistered id = true ↔ id ∈ table.activeContainers
  unique : (table.reachingEntities.map (·.id)).Nodup
  children : table.contains.Nodup
  once : ∀ entry ∈ table.reachingEntities, entry.observedEntities.Nodup
  sees : ∀ entry ∈ table.reachingEntities, ∀ child,
    child ∈ entry.observedEntities ↔ child ∈ table.contains
  released : ∀ observation id, table.observations observation = some id →
    ∃ entry ∈ table.reachingEntities, entry.id = id ∧ observation ∈ entry.disconnectFunctions

variable {always} {table : ContainerObservers}

theorem hasObserverRegistered_iff {id : String} :
    table.hasObserverRegistered id = true ↔ ∃ entry ∈ table.reachingEntities, entry.id = id := by
  simp [hasObserverRegistered]

namespace Kept

theorem settled (kept : Kept table) : Settled always table := by
  constructor
  · exact kept.active
  · exact kept.once
  · intro entry member child
    have isObserver := hasObserverRegistered_iff.mpr ⟨entry, member, rfl⟩
    simp [isEntityVisibleFor, isObserver, kept.sees entry member child]
  · exact kept.released

theorem initial : Kept ContainerObservers.initial := by
  constructor
  · simp [hasObserverRegistered, ContainerObservers.initial]
  · exact nodup_nil
  · exact nodup_nil
  · intro entry member
    cases member
  · intro entry member
    cases member
  · intro observation id isSome
    cases isSome

section

variable (kept : Kept table)

include kept

theorem change (seen : List String → List String) {contains : List String}
    (children : contains.Nodup)
    (once : ∀ before, before.Nodup → (∀ child, child ∈ before ↔ child ∈ table.contains) →
      (seen before).Nodup)
    (sees : ∀ before, (∀ child, child ∈ before ↔ child ∈ table.contains) →
      ∀ child, child ∈ seen before ↔ child ∈ contains) :
    Kept { table with
      contains := contains
      reachingEntities := table.reachingEntities.map fun entry =>
        { entry with observedEntities := seen entry.observedEntities } } := by
  constructor
  · intro id
    have active := kept.active id
    rw [hasObserverRegistered_iff] at active ⊢
    simpa using active
  · have same : (table.reachingEntities.map fun entry =>
        { entry with observedEntities := seen entry.observedEntities }).map (·.id) =
        table.reachingEntities.map (·.id) := by
      simp [comp_def]
    rw [same]
    exact kept.unique
  · exact children
  · intro entry member
    obtain ⟨old, isOld, rfl⟩ := List.mem_map.mp member
    exact once old.observedEntities (kept.once old isOld) (kept.sees old isOld)
  · intro entry member
    obtain ⟨old, isOld, rfl⟩ := List.mem_map.mp member
    exact sees old.observedEntities (kept.sees old isOld)
  · intro observation id isSome
    obtain ⟨entry, member, isId, isHandle⟩ := kept.released observation id isSome
    exact ⟨_, mem_map_of_mem member, isId, isHandle⟩

theorem removeEntity (child : String) : Kept (table.removeEntity child) := by
  apply kept.change (·.filter (· ≠ child))
  · exact kept.children.filter _
  · exact fun before nodup _ => nodup.filter _
  · intro before same other
    rw [mem_filter, mem_filter, same other]

theorem addEntity {child : String} (new : child ∉ table.contains) :
    Kept (table.addEntity child) := by
  apply kept.change (· ++ [child])
  · exact List.nodup_cons.mpr ⟨new, kept.children⟩
  · intro before nodup same
    apply nodup.append (nodup_singleton child)
    intro other isSeen isChild
    cases List.mem_singleton.mp isChild
    exact new ((same child).mp isSeen)
  · intro before same other
    rw [mem_append, mem_singleton, mem_cons, same other, or_comm]

theorem disconnect (observation : Nat) : Kept (table.disconnect observation) := by
  refine ⟨kept.active, kept.unique, kept.children, kept.once, kept.sees, ?_⟩
  intro other id isSome
  by_cases same : other = observation
  · subst same
    have gone : (table.disconnect other).observations other = none := update_self ..
    rw [gone] at isSome
    cases isSome
  · have old : (table.disconnect observation).observations other = table.observations other :=
      update_of_ne same _ _
    exact kept.released other id (old ▸ isSome)

end

end Kept

theorem foldl_disconnect (observations : List Nat) (table : ContainerObservers) :
    observations.foldl disconnect table =
      { table with
        observations := fun observation =>
          if observation ∈ observations then none else table.observations observation } := by
  induction observations generalizing table with
  | nil => simp
  | cons first rest ih =>
    rw [foldl_cons, ih]
    simp only [disconnect, ContainerObservers.mk.injEq, true_and, and_true]
    funext observation
    by_cases isFirst : observation = first
    · simp [isFirst]
    · simp [isFirst]

theorem Kept.removeObserver (kept : Kept table) (id : String) : Kept (table.removeObserver id) := by
  unfold ContainerObservers.removeObserver
  split
  · exact kept
  next entry found =>
    have member := mem_of_find?_eq_some found
    have isId : entry.id = id := by simpa using find?_some found
    rw [foldl_disconnect]
    constructor
    · intro other
      have active := kept.active other
      rw [hasObserverRegistered_iff] at active ⊢
      by_cases same : other = id
      · subst same
        simp
      · simp only [mem_filter, decide_eq_true_eq, ← active]
        constructor
        · rintro ⟨old, ⟨isOld, _⟩, isOther⟩
          exact ⟨⟨old, isOld, isOther⟩, same⟩
        · rintro ⟨⟨old, isOld, isOther⟩, _⟩
          exact ⟨old, ⟨isOld, isOther ▸ same⟩, isOther⟩
    · exact (List.filter_sublist.map _).nodup kept.unique
    · exact kept.children
    · exact fun old isOld => kept.once old (mem_of_mem_filter isOld)
    · exact fun old isOld => kept.sees old (mem_of_mem_filter isOld)
    · intro observation other isSome
      by_cases released : observation ∈ entry.disconnectFunctions
      · simp [released] at isSome
      · simp only [released, if_false] at isSome
        obtain ⟨holder, isHolder, isOther, isHandle⟩ := kept.released observation other isSome
        refine ⟨holder, List.mem_filter.mpr ⟨isHolder, ?_⟩, isOther, isHandle⟩
        apply decide_eq_true
        intro sameId
        have same := inj_on_of_nodup_map kept.unique isHolder member (sameId.trans isId.symm)
        exact released (same ▸ isHandle)

section Add

variable {request : ObserverRequest} {count : Nat}

/-- Entry of a new observer. -/
def newEntry (table : ContainerObservers) (request : ObserverRequest) (count : Nat) :
    ObserverEntry :=
  ⟨request.id, List.range' table.next count, if request.canReach then table.contains else []⟩

theorem getVisibleEntitiesFor_of_registered
    (isObserver : table.hasObserverRegistered request.id = true) :
    table.getVisibleEntitiesFor always request =
      if request.canReach then table.contains else [] := by
  have all : table.isEntityVisibleFor always request.id = fun _ => true := by
    funext child
    simp [isEntityVisibleFor, isObserver]
  simp [getVisibleEntitiesFor, all]

theorem requireEntry_registered (table : ContainerObservers) (id : String) :
    (table.requireEntry id).hasObserverRegistered id = true := by
  unfold requireEntry
  split
  next isObserver => exact isObserver
  next =>
    apply hasObserverRegistered_iff.mpr
    exact ⟨_, (mem_orderedInsert _).mpr (.inl rfl), rfl⟩

theorem requireEntry_of_new {id : String} (new : table.hasObserverRegistered id = false) :
    (table.requireEntry id).reachingEntities = table.reachingEntities.orderedInsert
      (fun first second => first.id ≤ second.id) ⟨id, [], []⟩ := by
  simp [requireEntry, new]

section

variable (isSome : request.closeness = some count)

include isSome

theorem addObserver_eq :
    addObserver always table request =
      { table with
        reachingEntities := (table.requireEntry request.id).reachingEntities.map fun entry =>
          if entry.id = request.id then
            { entry with
              disconnectFunctions := List.range' table.next count
              observedEntities := entry.observedEntities ++
                if request.canReach then table.contains else [] }
          else entry
        activeContainers :=
          if request.id ∈ table.activeContainers then table.activeContainers
          else request.id :: table.activeContainers
        observations := fun observation =>
          if table.next ≤ observation ∧ observation < table.next + count then some request.id
          else table.observations observation
        next := table.next + count } := by
  have sameContents : (table.requireEntry request.id).contains = table.contains := by
    unfold requireEntry
    split
    · rfl
    · rfl
  have visible : ∀ entered : ContainerObservers, entered.contains = table.contains →
      entered.reachingEntities = (table.requireEntry request.id).reachingEntities →
      entered.getVisibleEntitiesFor always request =
        if request.canReach then table.contains else [] := by
    intro entered sameContents sameEntries
    rw [getVisibleEntitiesFor_of_registered, sameContents]
    rw [hasObserverRegistered, sameEntries]
    exact requireEntry_registered table request.id
  simp only [addObserver, isSome]
  rw [visible, sameContents]
  · exact sameContents
  · rfl

section

variable (new : table.hasObserverRegistered request.id = false)

include new

theorem mem_addObserver
    {entry : ObserverEntry} :
    entry ∈ (addObserver always table request).reachingEntities ↔
      entry = table.newEntry request count ∨ entry ∈ table.reachingEntities := by
  have notNamed : ∀ old ∈ table.reachingEntities, old.id ≠ request.id := by
    intro old isOld isId
    rw [hasObserverRegistered_iff.mpr ⟨old, isOld, isId⟩] at new
    cases new
  rw [addObserver_eq isSome, requireEntry_of_new new, mem_map]
  constructor
  · rintro ⟨old, isOld, rfl⟩
    rcases (mem_orderedInsert _).mp isOld with rfl | isOld
    · left
      simp [newEntry]
    · right
      rw [if_neg (notNamed old isOld)]
      exact isOld
  · rintro (rfl | isOld)
    · exact ⟨_, (mem_orderedInsert _).mpr (.inl rfl), by simp [newEntry]⟩
    · refine ⟨entry, (mem_orderedInsert _).mpr (.inr isOld), ?_⟩
      rw [if_neg (notNamed entry isOld)]

theorem addObserver_unique
    (unique : (table.reachingEntities.map (·.id)).Nodup) :
    ((addObserver always table request).reachingEntities.map (·.id)).Nodup := by
  have same : ((addObserver always table request).reachingEntities.map (·.id)) =
      (table.requireEntry request.id).reachingEntities.map (·.id) := by
    rw [addObserver_eq isSome, map_map]
    apply map_congr_left
    intro entry _
    simp only [comp]
    split <;> rfl
  rw [same, requireEntry_of_new new]
  have perm := (perm_orderedInsert (fun first second : ObserverEntry => first.id ≤ second.id)
    ⟨request.id, [], []⟩ table.reachingEntities).map (·.id)
  apply perm.nodup_iff.mpr
  apply List.nodup_cons.mpr
  constructor
  · intro member
    obtain ⟨old, isOld, isId⟩ := List.mem_map.mp member
    rw [hasObserverRegistered_iff.mpr ⟨old, isOld, isId⟩] at new
    cases new
  · exact unique

end

end

theorem Kept.addObserver (kept : Kept table) (isSome : request.closeness = some count)
    (new : table.hasObserverRegistered request.id = false)
    (reaches : request.canReach = true ∨ table.contains = []) :
    Kept (addObserver always table request) := by
  have entries : ∀ entry, entry ∈
      (ContainerObservers.addObserver always table request).reachingEntities ↔
        entry = table.newEntry request count ∨ entry ∈ table.reachingEntities :=
    fun _ => mem_addObserver isSome new
  have inactive : request.id ∉ table.activeContainers := by
    rw [← kept.active, new]
    exact Bool.false_ne_true
  have observed : (table.newEntry request count).observedEntities = table.contains := by
    rcases reaches with canReach | empty
    · simp [newEntry, canReach]
    · simp [newEntry, empty]
  have contents : (ContainerObservers.addObserver always table request).contains =
      table.contains := by
    rw [addObserver_eq isSome]
  constructor
  · intro id
    have active := kept.active id
    have sameActive : (ContainerObservers.addObserver always table request).activeContainers =
        request.id :: table.activeContainers := by
      rw [addObserver_eq isSome, if_neg inactive]
    rw [hasObserverRegistered_iff] at active ⊢
    rw [sameActive, mem_cons, ← active]
    constructor
    · rintro ⟨entry, member, isId⟩
      rcases (entries entry).mp member with rfl | isOld
      · exact .inl isId.symm
      · exact .inr ⟨entry, isOld, isId⟩
    · rintro (isNew | ⟨entry, isOld, isId⟩)
      · exact ⟨_, (entries _).mpr (.inl rfl), isNew.symm⟩
      · exact ⟨entry, (entries entry).mpr (.inr isOld), isId⟩
  · exact addObserver_unique isSome new kept.unique
  · rw [contents]
    exact kept.children
  · intro entry member
    rcases (entries entry).mp member with rfl | isOld
    · rw [observed]
      exact kept.children
    · exact kept.once entry isOld
  · intro entry member child
    rw [contents]
    rcases (entries entry).mp member with rfl | isOld
    · rw [observed]
    · exact kept.sees entry isOld child
  · intro observation id isFor
    have isFor' : (if table.next ≤ observation ∧ observation < table.next + count then
        some request.id else table.observations observation) = some id := by
      rw [addObserver_eq isSome] at isFor
      exact isFor
    split at isFor'
    next range =>
      cases isFor'
      refine ⟨_, (entries _).mpr (.inl rfl), rfl, ?_⟩
      exact mem_range'_1.mpr range
    next =>
      obtain ⟨entry, member, isId, isHandle⟩ := kept.released observation id isFor'
      exact ⟨entry, (entries entry).mpr (.inr member), isId, isHandle⟩

end Add

/-- Requests whose observers may be added one by one. -/
def Addable (table : ContainerObservers) (requests : List ObserverRequest) : Prop :=
  (requests.map (·.id)).Nodup ∧ ∀ request ∈ requests,
    table.hasObserverRegistered request.id = false ∧
      (request.canReach = true ∨ table.contains = [])

theorem Kept.addObservers (kept : Kept table) {requests : List ObserverRequest}
    (addable : table.Addable (requests.filter (·.closeness.isSome))) :
    Kept (requests.foldl (ContainerObservers.addObserver always) table) := by
  induction requests generalizing table with
  | nil => exact kept
  | cons first rest ih =>
    rw [foldl_cons]
    cases isSome : first.closeness with
    | none =>
      have same : ContainerObservers.addObserver always table first = table := by
        simp [ContainerObservers.addObserver, isSome]
      rw [same]
      apply ih kept
      simpa [isSome] using addable
    | some count =>
      rw [filter_cons_of_pos (by simp [isSome])] at addable
      obtain ⟨distinct, each⟩ := addable
      obtain ⟨notFirst, distinct⟩ := List.nodup_cons.mp distinct
      obtain ⟨new, reaches⟩ := each first mem_cons_self
      apply ih (kept.addObserver isSome new reaches)
      refine ⟨distinct, ?_⟩
      intro request member
      obtain ⟨isNew, canReach⟩ := each request (mem_cons_of_mem first member)
      constructor
      · apply Bool.eq_false_iff.mpr
        intro isObserver
        obtain ⟨entry, isEntry, isId⟩ := hasObserverRegistered_iff.mp isObserver
        rcases (mem_addObserver isSome new).mp isEntry with rfl | isOld
        · exact notFirst (List.mem_map.mpr ⟨request, member, isId.symm⟩)
        · rw [hasObserverRegistered_iff.mpr ⟨entry, isOld, isId⟩] at isNew
          cases isNew
      · rw [addObserver_eq isSome]
        exact canReach

theorem setObservers_added (always : String → String → Bool)
    {change : List String × ContainerObservers → ObserverRequest → List String × ContainerObservers}
    (crosses : ∀ existing current request, request.id ∈ existing →
      change (existing, current) request = (existing.erase request.id, current))
    (adds : ∀ existing current request, request.id ∉ existing →
      change (existing, current) request = (existing, addObserver always current request))
    (requests : List ObserverRequest) (existing : List String) (table : ContainerObservers) :
    (requests.foldl change (existing, table)).2 =
      (asked existing requests).foldl (addObserver always) table := by
  induction requests generalizing existing table with
  | nil => rfl
  | cons first rest ih =>
    by_cases isOld : first.id ∈ existing
    · rw [foldl_cons, crosses _ _ _ isOld, ih, asked, if_pos isOld]
    · rw [foldl_cons, adds _ _ _ isOld, ih, asked, if_neg isOld, foldl_cons]

theorem Kept.setObservers (kept : Kept table) {observerIds : List ObserverRequest}
    (addable : table.Addable (table.accepted observerIds)) :
    Kept (setObservers always table observerIds) := by
  unfold ContainerObservers.setObservers
  apply run_invariant_of_step Kept fun _ id kept => kept.removeObserver id
  rw [setObservers_added always]
  · exact kept.addObservers addable
  · intro existing current request isOld
    simp [isOld]
  · intro existing current request isNew
    simp [isNew]

theorem Kept.step (kept : Kept table) {event : ObserverEvent} (addedOnce : table.AddedOnce event) :
    Kept (step always table event) := by
  cases event with
  | setObservers observerIds => exact kept.setObservers addedOnce
  | sever observation =>
    rw [ContainerObservers.step]
    split
    · exact kept
    · exact (kept.disconnect observation).removeObserver _
  | addEntity child stacked =>
    rw [ContainerObservers.step]
    split
    · exact kept.removeEntity child
    · apply (kept.removeEntity child).addEntity
      simp [ContainerObservers.removeEntity]
  | removeEntity child => exact kept.removeEntity child

/-- Observers and observed children of a container agree in every run in which observers are added
once and can reach it. -/
theorem run_settled (always : String → String → Bool) (events : List ObserverEvent)
    (addedOnce : Admissible (step always) AddedOnce initial events) :
    Settled always (run (step always) initial events) :=
  (run_invariant Kept (fun _ _ kept addedOnce => kept.step addedOnce) Kept.initial
    addedOnce).settled

/-- One of two walks away from a chest. -/
theorem run_settled_chest :
    Settled (fun _ _ => false) (run (step fun _ _ => false) initial
      [.addEntity "coins" false, .setObservers [⟨"alice", some 2, true⟩, ⟨"nobody", none, false⟩,
        ⟨"bob", some 1, true⟩], .addEntity "sword" false, .sever 0, .removeEntity "coins",
        .setObservers [⟨"bob", some 1, true⟩]]) :=
  run_settled _ _ (by decide +kernel)

/-- An id that is given twice. -/
theorem repeated_id_not_settled :
    ¬ Settled (fun _ _ => false) (run (step fun _ _ => false) initial
      [.addEntity "coins" false,
        .setObservers [⟨"alice", some 1, true⟩, ⟨"alice", some 1, true⟩]]) := by
  intro settled
  have seen : ¬ ∀ entry ∈ (run (step fun _ _ => false) initial
      [.addEntity "coins" false, .setObservers [⟨"alice", some 1, true⟩,
        ⟨"alice", some 1, true⟩]]).reachingEntities, entry.observedEntities.Nodup := by
    decide +kernel
  exact seen settled.once

end ContainerObservers

end Cyphesis.Simulation
