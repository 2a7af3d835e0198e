import Std.Data.ExtTreeMap
import Cyphesis.Foundation.Run
import Cyphesis.Foundation.Forest

/-!
# Types on the side of the client

A client learns of types from Info operations, in any order. `resolveType` has a bound on its depth
here, which is never reached.
-/

namespace Cyphesis.Ai

open Std (ExtTreeMap)
open Cyphesis.Foundation List Std.ExtTreeMap

/-- What is read of the data for a type. -/
structure TypeData where
  objtype : Option String
  id : Option String
  parent : Option String
  deriving DecidableEq

structure PendingType where
  ent : Option TypeData
  childTypes : List String
  deriving DecidableEq

/-- Installation, pending types, and gets. -/
structure TypeResolver where
  types : List String
  pendingTypes : ExtTreeMap String PendingType compare
  gets : List String

namespace TypeResolver

/-- `m_pendingTypes[id]`. -/
def pending (state : TypeResolver) (id : String) : PendingType :=
  state.pendingTypes[id]?.getD ⟨none, []⟩

/-- `m_pendingTypes.erase`. -/
def erasePending (state : TypeResolver) (id : String) : TypeResolver :=
  { state with pendingTypes := state.pendingTypes.erase id }

def addChild (state : TypeResolver) (obj : TypeData) : Option TypeResolver :=
  let child := obj.id.getD ""
  let parent := obj.parent.getD ""
  if parent ≠ "" ∧ parent ∉ state.types then none
  else if child ∈ state.types then none
  else some { state with types := state.types ++ [child] }

/-- One turn of the loop over waiting types. -/
def resolveChild (resolve : TypeResolver → String → TypeData → TypeResolver × List String)
    (current : TypeResolver × List String) (child : String) : TypeResolver × List String :=
  match (current.1.pending child).ent with
  | none => current
  | some ent =>
    let below := resolve current.1 child ent
    (below.1, current.2 ++ below.2)

/-- `TypeResolver::resolveType` -/
def resolveType : Nat → TypeResolver → String → TypeData → TypeResolver × List String
  | 0, state, _, _ => (state, [])
  | depth + 1, state, id, ent =>
    match if id ∈ state.types then some state else state.addChild ent with
    | none => (state, [])
    | some installed =>
      match installed.pendingTypes[id]? with
      | none => (installed, [id])
      | some waiting =>
        let resolved :=
          waiting.childTypes.foldl (resolveChild (resolveType depth)) (installed, [id])
        (resolved.1.erasePending id, resolved.2)

def requestType (state : TypeResolver) (id : String) : TypeResolver :=
  if id ∈ state.types then state
  else
    match state.pendingTypes[id]? with
    | some _ => state
    | none =>
      { state with
        pendingTypes := state.pendingTypes.insert id ⟨none, []⟩
        gets := state.gets ++ [id] }

/-- Keep what has no known parent. -/
def wait (state : TypeResolver) (id parent : String) (data : TypeData) : TypeResolver :=
  let kept :=
    { state with
      pendingTypes := state.pendingTypes.insert id { state.pending id with ent := some data } }
  let requested := kept.requestType parent
  { requested with
    pendingTypes := requested.pendingTypes.insert parent
      { requested.pending parent with
        childTypes := (requested.pending parent).childTypes.insert id } }

def processTypeData (state : TypeResolver) (data : TypeData) : TypeResolver × List String :=
  match data.id with
  | none => (state, [])
  | some id =>
    match data.parent with
    | none => resolveType (state.pendingTypes.size + 1) state id data
    | some parent =>
      if parent ∈ state.types then resolveType (state.pendingTypes.size + 1) state id data
      else (state.wait id parent data, [])

/-- Kinds of data that are about types. -/
def isTypeData (data : TypeData) : Bool :=
  data.objtype = some "meta" ∨ data.objtype = some "class" ∨ data.objtype = some "op_definition" ∨
    data.objtype = some "archetype"

/-- `TypeResolver::InfoOperation` -/
def infoOperation (state : TypeResolver) (arg : Option TypeData) : TypeResolver × List String :=
  match arg with
  | none => (state, [])
  | some data => if isTypeData data then state.processTypeData data else (state, [])

section Forest

variable (above : String → Option String)

/-- The data is of a forest of types. -/
structure Fitting (state : TypeResolver) : Prop where
  data : ∀ id ent, (state.pending id).ent = some ent → ent.id = some id ∧ ent.parent = above id
  child : ∀ id, ∀ child ∈ (state.pending id).childTypes, above child = some id

/-- A type is noted with its parent unless busy. -/
def Linked (busy : String → Prop) (state : TypeResolver) : Prop :=
  ∀ id, (state.pending id).ent.isSome → ∃ parent, above id = some parent ∧
    (parent ∈ state.types → busy parent) ∧ id ∈ (state.pending parent).childTypes

/-- Each once, and after its parent. -/
def Installs : List String → List String → Prop
  | _, [] => True
  | types, id :: rest =>
    id ∉ types ∧ (∀ parent, above id = some parent → parent ∈ types) ∧
      Installs (types ++ [id]) rest

/-- Entries below a type in the store are erased. -/
def Cleared (before after : TypeResolver) (scope : String → Prop) : Prop :=
  ∀ id, after.pendingTypes[id]? = before.pendingTypes[id]? ∨
    after.pendingTypes[id]? = none ∧ scope id ∧ id ∈ after.types

/-- What a call does: the types it adds are returned, each after its parent, and no longer wait. -/
structure Resolves (busy scope origin : String → Prop) (before after : TypeResolver)
    (resolved : List String) : Prop where
  gets : after.gets = before.gets
  installs : ∃ added, after.types = before.types ++ added ∧ Installs above before.types added ∧
    ∀ id ∈ added, id ∈ resolved ∧ origin id
  cleared : Cleared before after scope
  linked : Linked above busy after

variable {above}

theorem Installs.append {types first second : List String} (before : Installs above types first)
    (after : Installs above (types ++ first) second) : Installs above types (first ++ second) := by
  induction first generalizing types with
  | nil => simpa using after
  | cons id rest ih =>
    obtain ⟨isNew, known, others⟩ := before
    refine ⟨isNew, known, ih others ?_⟩
    simpa using after

variable {before after : TypeResolver} {scope : String → Prop} {first second third : TypeResolver}
   {depth : Nat}

theorem pending_of_cleared (cleared : Cleared before after scope) (id : String) :
    after.pending id = before.pending id ∨ after.pending id = ⟨none, []⟩ := by
  rcases cleared id with same | ⟨erased, -⟩
  · left
    rw [pending, pending, same]
  · right
    rw [pending, erased]
    rfl

theorem Fitting.of_cleared (fitting : Fitting above before) (cleared : Cleared before after scope) :
    Fitting above after := by
  constructor
  · intro id ent isEnt
    rcases pending_of_cleared cleared id with same | erased
    · rw [same] at isEnt
      exact fitting.data id ent isEnt
    · rw [erased] at isEnt
      cases isEnt
  · intro id child isChild
    rcases pending_of_cleared cleared id with same | erased
    · rw [same] at isChild
      exact fitting.child id child isChild
    · rw [erased] at isChild
      cases isChild

theorem Cleared.refl (state : TypeResolver) (scope : String → Prop) :
    Cleared state state scope :=
  fun _ => .inl rfl

theorem Cleared.trans (before : Cleared first second scope) (after : Cleared second third scope)
    (kept : ∀ id ∈ second.types, id ∈ third.types) : Cleared first third scope := by
  intro id
  rcases after id with same | erased
  · rw [same]
    rcases before id with same | ⟨erased, inScope, isType⟩
    · exact .inl same
    · exact .inr ⟨erased, inScope, kept id isType⟩
  · exact .inr erased

theorem Cleared.mono {scope wider : String → Prop} (cleared : Cleared before after scope)
    (wide : ∀ id, scope id → wider id) :
    Cleared before after wider := by
  intro id
  rcases cleared id with same | ⟨erased, inScope, isType⟩
  · exact .inl same
  · exact .inr ⟨erased, wide id inScope, isType⟩

theorem Resolves.types_mono {busy scope origin : String → Prop} {resolved : List String}
    (resolves : Resolves above busy scope origin before after resolved) :
    ∀ id ∈ before.types, id ∈ after.types := by
  obtain ⟨added, types, -⟩ := resolves.installs
  intro id isType
  rw [types]
  exact mem_append_left added isType

theorem Resolves.trans {busy scope origin inner source : String → Prop}
    {resolved more : List String} (before : Resolves above busy scope origin first second resolved)
    (after : Resolves above busy inner source second third more)
    (inScope : ∀ id, inner id → scope id) (fromOrigin : ∀ id, source id → origin id) :
    Resolves above busy scope origin first third (resolved ++ more) := by
  constructor
  · rw [after.gets, before.gets]
  · obtain ⟨added, types, installs, reported⟩ := before.installs
    obtain ⟨later, typesLater, installsLater, reportedLater⟩ := after.installs
    refine ⟨added ++ later, ?_, ?_, ?_⟩
    · rw [typesLater, types, append_assoc]
    · rw [types] at installsLater
      exact installs.append installsLater
    · intro id isAdded
      rcases List.mem_append.mp isAdded with isFirst | isLater
      · obtain ⟨isResolved, isOrigin⟩ := reported id isFirst
        exact ⟨mem_append_left more isResolved, isOrigin⟩
      · obtain ⟨isResolved, isSource⟩ := reportedLater id isLater
        exact ⟨mem_append_right resolved isResolved, fromOrigin id isSource⟩
  · exact before.cleared.trans (after.cleared.mono inScope) after.types_mono
  · exact after.linked

/-- The pending types at and below a type. -/
noncomputable def pendingBelow (above : String → Option String) (state : TypeResolver)
    (id : String) : Finset String :=
  open Classical in state.pendingTypes.keys.toFinset.filter fun other => Reaches above other id

theorem mem_pendingBelow {state : TypeResolver} {id other : String} :
    other ∈ pendingBelow above state id ↔ other ∈ state.pendingTypes ∧ Reaches above other id := by
  simp [pendingBelow]

theorem card_pendingBelow_le (state : TypeResolver) (id : String) :
    (pendingBelow above state id).card ≤ state.pendingTypes.size := by
  calc (pendingBelow above state id).card ≤ state.pendingTypes.keys.toFinset.card := by
        apply Finset.card_le_card
        intro other isBelow
        simpa using (mem_pendingBelow.mp isBelow).1
    _ ≤ state.pendingTypes.keys.length := toFinset_card_le _
    _ = state.pendingTypes.size := length_keys

theorem card_pendingBelow_lt (forest : ∀ id, Grounded above id)
    (cleared : Cleared before after scope) {id child : String} (isChild : above child = some id)
    (isPending : id ∈ before.pendingTypes) :
    (pendingBelow above after child).card < (pendingBelow above before id).card := by
  apply Finset.card_lt_card
  rw [Finset.ssubset_iff_of_subset]
  · refine ⟨id, mem_pendingBelow.mpr ⟨isPending, Reaches.refl above id⟩, ?_⟩
    intro isBelow
    exact (forest child).not_reaches_of_parent isChild (mem_pendingBelow.mp isBelow).2
  · intro other isBelow
    obtain ⟨isAfter, reaches⟩ := mem_pendingBelow.mp isBelow
    apply mem_pendingBelow.mpr
    constructor
    · rw [mem_iff_isSome_getElem?] at isAfter ⊢
      rcases cleared other with same | ⟨erased, -⟩
      · rwa [same] at isAfter
      · rw [erased] at isAfter
        cases isAfter
    · exact reaches.trans (Reaches.of_parent isChild (Reaches.refl above id))

/-- Its data fit, and the parent is there. -/
structure Ready (above : String → Option String) (busy : String → Prop) (depth : Nat)
    (state : TypeResolver) (id : String) (ent : TypeData) : Prop where
  fitting : Fitting above state
  linked : Linked above busy state
  ownId : ent.id = some id
  parent : ent.parent = above id
  known : ∀ parent, above id = some parent → parent ∈ state.types
  enough : (pendingBelow above state id).card < depth

/-- What resolving a type achieves. -/
def Achieves (above : String → Option String) (busy : String → Prop) (state : TypeResolver)
    (id : String) (outcome : TypeResolver × List String) : Prop :=
  Resolves above busy (fun other => Reaches above other id)
    (fun other => other = id ∨ (state.pending other).ent.isSome) state outcome.1 outcome.2 ∧
  id ∈ outcome.2 ∧ id ∈ outcome.1.types ∧ outcome.1.pendingTypes[id]? = none

section

variable {busy : String → Prop} {id : String}

theorem install_eq_some {state : TypeResolver} {ent : TypeData}
    (ready : Ready above busy depth state id ent) :
    ∃ installed, (if id ∈ state.types then some state else state.addChild ent) = some installed ∧
      installed.pendingTypes = state.pendingTypes ∧ installed.gets = state.gets ∧
      ∃ added, installed.types = state.types ++ added ∧ Installs above state.types added ∧
        (∀ other ∈ added, other = id) ∧ id ∈ installed.types := by
  by_cases isType : id ∈ state.types
  · exact ⟨state, by rw [if_pos isType], rfl, rfl, [], (append_nil _).symm, trivial,
      forall_mem_nil _, isType⟩
  · have permitted : ¬(ent.parent.getD "" ≠ "" ∧ ent.parent.getD "" ∉ state.types) := by
      rintro ⟨isNamed, isUnknown⟩
      rw [ready.parent] at isNamed isUnknown
      cases isAbove : above id with
      | none =>
        rw [isAbove] at isNamed
        exact isNamed rfl
      | some parent =>
        rw [isAbove] at isUnknown
        exact isUnknown (ready.known parent isAbove)
    refine ⟨{ state with types := state.types ++ [id] }, ?_, rfl, rfl, [id], rfl, ?_, ?_, ?_⟩
    · rw [if_neg isType, addChild, if_neg permitted, ready.ownId]
      simp only [Option.getD_some]
      rw [if_neg isType]
    · exact ⟨isType, ready.known, trivial⟩
    · intro other isAdded
      exact List.mem_singleton.mp isAdded
    · exact mem_append_right _ (mem_singleton_self id)

/-- The loop over the types that wait. -/
theorem foldl_resolveChild (forest : ∀ id, Grounded above id)
    (resolves : ∀ state id ent, Ready above busy depth state id ent →
      Achieves above busy state id (resolveType depth state id ent)) {installed : TypeResolver}
        (fitting : Fitting above installed) (isType : id ∈ installed.types)
    (isPending : id ∈ installed.pendingTypes)
    (enough : (pendingBelow above installed id).card ≤ depth) (children : List String)
    (fits : ∀ child ∈ children, above child = some id) (current : TypeResolver × List String)
    (before : Resolves above busy (fun other => ∃ child, above child = some id ∧
      Reaches above other child) (fun other => (installed.pending other).ent.isSome)
      installed current.1 current.2) :
    Resolves above busy (fun other => ∃ child, above child = some id ∧ Reaches above other child)
        (fun other => (installed.pending other).ent.isSome) installed
        (children.foldl (resolveChild (resolveType depth)) current).1
        (children.foldl (resolveChild (resolveType depth)) current).2 ∧
    (∀ child, child ∈ children ∨ (current.1.pending child).ent = none →
      ((children.foldl (resolveChild (resolveType depth)) current).1.pending child).ent = none) ∧
    ∀ other ∈ current.2, other ∈ (children.foldl (resolveChild (resolveType depth)) current).2 := by
  induction children generalizing current with
  | nil =>
    refine ⟨before, ?_, fun _ isResolved => isResolved⟩
    rintro child (isChild | waitsNot)
    · cases isChild
    · exact waitsNot
  | cons child rest ih =>
    have fitsRest : ∀ other ∈ rest, above other = some id :=
      fun other isRest => fits other (mem_cons_of_mem child isRest)
    have isChild := fits child mem_cons_self
    rw [foldl_cons]
    cases isEnt : (current.1.pending child).ent with
    | none =>
      have skips : resolveChild (resolveType depth) current child = current := by
        rw [resolveChild, isEnt]
      rw [skips]
      obtain ⟨after, settled, kept⟩ := ih fitsRest current before
      refine ⟨after, ?_, kept⟩
      rintro other (isOther | waitsNot)
      · rcases List.mem_cons.mp isOther with rfl | isRest
        · exact settled other (.inr isEnt)
        · exact settled other (.inl isRest)
      · exact settled other (.inr waitsNot)
    | some ent =>
      have fittingNow := fitting.of_cleared before.cleared
      have ready : Ready above busy depth current.1 child ent :=
        { fitting := fittingNow
          linked := before.linked
          ownId := (fittingNow.data child ent isEnt).1
          parent := (fittingNow.data child ent isEnt).2
          known := by
            intro parent isParent
            rw [isChild] at isParent
            cases isParent
            exact before.types_mono id isType
          enough := Nat.lt_of_lt_of_le
            (card_pendingBelow_lt forest before.cleared isChild isPending) enough }
      obtain ⟨below, isResolved, -, isErased⟩ := resolves current.1 child ent ready
      have step : resolveChild (resolveType depth) current child =
          ((resolveType depth current.1 child ent).1,
            current.2 ++ (resolveType depth current.1 child ent).2) := by
        rw [resolveChild, isEnt]
      rw [step]
      have waited : ∀ other, (current.1.pending other).ent.isSome →
          (installed.pending other).ent.isSome := by
        intro other isWaiting
        rcases pending_of_cleared before.cleared other with same | erased
        · rwa [same] at isWaiting
        · rw [erased] at isWaiting
          cases isWaiting
      have next := before.trans below (fun other reaches => ⟨child, isChild, reaches⟩) (by
        rintro other (rfl | isWaiting)
        · exact waited other (by rw [isEnt]; rfl)
        · exact waited other isWaiting)
      obtain ⟨after, settled, kept⟩ := ih fitsRest
        ((resolveType depth current.1 child ent).1,
          current.2 ++ (resolveType depth current.1 child ent).2) next
      refine ⟨after, ?_, fun other isOther => kept other (mem_append_left _ isOther)⟩
      rintro other (isOther | waitsNot)
      · rcases List.mem_cons.mp isOther with rfl | isRest
        · apply settled other
          right
          rw [pending, isErased]
          rfl
        · exact settled other (.inl isRest)
      · apply settled other
        right
        rcases pending_of_cleared below.cleared other with same | erased
        · rw [same]
          exact waitsNot
        · rw [erased]

end

theorem pending_eq_of_pendingTypes {first second : TypeResolver}
    (same : first.pendingTypes = second.pendingTypes) : first.pending = second.pending := by
  funext id
  rw [pending, pending, same]

theorem getElem?_erasePending_self (state : TypeResolver) (id : String) :
    (state.erasePending id).pendingTypes[id]? = none :=
  getElem?_erase_self

theorem getElem?_erasePending_of_ne (state : TypeResolver) {id other : String}
    (different : other ≠ id) :
    (state.erasePending id).pendingTypes[other]? = state.pendingTypes[other]? := by
  rw [erasePending, getElem?_erase]
  simp [Ne.symm different]

theorem linked_erasePending {busy : String → Prop} {state : TypeResolver} {id : String}
    (linked : Linked above (fun other => busy other ∨ other = id) state)
    (settled : ∀ child ∈ (state.pending id).childTypes, (state.pending child).ent = none) :
    Linked above busy (state.erasePending id) := by
  have others : ∀ other, other ≠ id → (state.erasePending id).pending other =
      state.pending other := by
    intro other different
    rw [pending, pending, getElem?_erasePending_of_ne state different]
  intro other isWaiting
  have different : other ≠ id := by
    rintro rfl
    rw [pending, getElem?_erasePending_self] at isWaiting
    cases isWaiting
  rw [others other different] at isWaiting
  obtain ⟨parent, isParent, notYet, isListed⟩ := linked other isWaiting
  have isOther : parent ≠ id := by
    rintro rfl
    rw [settled other isListed] at isWaiting
    cases isWaiting
  refine ⟨parent, isParent, ?_, ?_⟩
  · intro isKnown
    rcases notYet isKnown with isBusy | same
    · exact isBusy
    · exact absurd same isOther
  · rw [others parent isOther]
    exact isListed

/-- The type has been installed, or was there. -/
structure Entered (above : String → Option String) (busy : String → Prop)
    (state installed : TypeResolver) (id : String) : Prop where
  pendingTypes : installed.pendingTypes = state.pendingTypes
  gets : installed.gets = state.gets
  types : ∃ added, installed.types = state.types ++ added ∧ Installs above state.types added ∧
    ∀ other ∈ added, other = id
  isType : id ∈ installed.types
  fitting : Fitting above installed
  linked : Linked above (fun other => busy other ∨ other = id) installed

theorem Ready.entered {busy : String → Prop} {state : TypeResolver} {id : String} {ent : TypeData}
    (ready : Ready above busy depth state id ent) :
    ∃ installed, (if id ∈ state.types then some state else state.addChild ent) = some installed ∧
      Entered above busy state installed id := by
  rcases install_eq_some ready with
    ⟨installed, isInstalled, pendingTypes, gets, added, types, installs, own, isType⟩
  have samePending := pending_eq_of_pendingTypes pendingTypes
  refine ⟨installed, isInstalled,
    { pendingTypes := pendingTypes
      gets := gets
      types := ⟨added, types, installs, own⟩
      isType := isType
      fitting := ?_
      linked := ?_ }⟩
  · constructor
    · rw [samePending]
      exact ready.fitting.data
    · rw [samePending]
      exact ready.fitting.child
  · intro other isWaiting
    rw [samePending] at isWaiting
    rcases ready.linked other isWaiting with ⟨parent, isParent, notYet, isListed⟩
    refine ⟨parent, isParent, ?_, by rwa [samePending]⟩
    intro isKnown
    rw [types] at isKnown
    rcases List.mem_append.mp isKnown with isOld | isAdded
    · exact .inl (notYet isOld)
    · exact .inr (own parent isAdded)

namespace Entered

variable {busy : String → Prop} {state installed : TypeResolver} {id : String}
  (entered : Entered above busy state installed id)

include entered

theorem achieves_alone (found : installed.pendingTypes[id]? = none) :
    Achieves above busy state id (installed, [id]) := by
  rcases entered.types with ⟨added, types, installs, own⟩
  refine ⟨⟨entered.gets, ⟨added, types, installs, ?_⟩, ?_, ?_⟩, mem_singleton_self id,
    entered.isType, found⟩
  · intro other isAdded
    have same := own other isAdded
    exact ⟨List.mem_singleton.mpr same, .inl same⟩
  · intro other
    exact .inl (by rw [entered.pendingTypes])
  · intro other isWaiting
    rcases entered.linked other isWaiting with ⟨parent, isParent, notYet, isListed⟩
    refine ⟨parent, isParent, ?_, isListed⟩
    intro isKnown
    rcases notYet isKnown with isBusy | rfl
    · exact isBusy
    · rw [pending, found] at isListed
      cases isListed

theorem achieves_erased {result : TypeResolver × List String}
    (loop : Resolves above (fun other => busy other ∨ other = id)
      (fun other => ∃ child, above child = some id ∧ Reaches above other child)
      (fun other => (installed.pending other).ent.isSome) installed result.1 result.2)
    (settled : ∀ child ∈ (installed.pending id).childTypes, (result.1.pending child).ent = none)
    (isResolved : id ∈ result.2) :
    Achieves above busy state id (result.1.erasePending id, result.2) := by
  rcases entered.types with ⟨added, types, installs, own⟩
  rcases loop.installs with ⟨later, typesLater, installsLater, reported⟩
  refine ⟨⟨?_, ?_, ?_, ?_⟩, isResolved, loop.types_mono id entered.isType, ?_⟩
  · exact loop.gets.trans entered.gets
  · refine ⟨added ++ later, ?_, ?_, ?_⟩
    · rw [← append_assoc, ← types]
      exact typesLater
    · rw [types] at installsLater
      exact installs.append installsLater
    · intro other isAdded
      rcases List.mem_append.mp isAdded with isOwn | isLater
      · rw [own other isOwn]
        exact ⟨isResolved, .inl rfl⟩
      · rw [← pending_eq_of_pendingTypes entered.pendingTypes]
        exact ⟨(reported other isLater).1, .inr (reported other isLater).2⟩
  · intro other
    by_cases same : other = id
    · rw [same]
      exact .inr ⟨getElem?_erasePending_self _ id, Reaches.refl above id,
        loop.types_mono id entered.isType⟩
    · rw [getElem?_erasePending_of_ne _ same, ← entered.pendingTypes]
      rcases loop.cleared other with kept | ⟨erased, ⟨child, isChild, reaches⟩, isKnown⟩
      · exact .inl kept
      · exact .inr ⟨erased, reaches.trans (Reaches.of_parent isChild (Reaches.refl above id)),
          isKnown⟩
  · apply linked_erasePending loop.linked
    intro child isListed
    rcases pending_of_cleared loop.cleared id with same | erased
    · rw [same] at isListed
      exact settled child isListed
    · rw [erased] at isListed
      cases isListed
  · exact getElem?_erasePending_self _ id

end Entered

theorem resolveType_achieves (forest : ∀ id, Grounded above id) (depth : Nat)
    (busy : String → Prop) (state : TypeResolver) (id : String) (ent : TypeData)
    (ready : Ready above busy depth state id ent) :
    Achieves above busy state id (resolveType depth state id ent) := by
  induction depth generalizing busy state id ent with
  | zero => exact absurd ready.enough (Nat.not_lt_zero _)
  | succ depth ih =>
    rcases ready.entered with ⟨installed, isInstalled, entered⟩
    rw [resolveType, isInstalled]
    simp only
    cases found : installed.pendingTypes[id]? with
    | none => exact entered.achieves_alone found
    | some waiting =>
      have isPending : id ∈ installed.pendingTypes := by
        rw [mem_iff_isSome_getElem?, found]
        rfl
      have listed : (installed.pending id).childTypes = waiting.childTypes := by
        rw [pending, found]
        rfl
      have bound : (pendingBelow above installed id).card ≤ depth := by
        have same : pendingBelow above installed id = pendingBelow above state id := by
          ext other
          rw [mem_pendingBelow, mem_pendingBelow, entered.pendingTypes]
        rw [same]
        exact Nat.le_of_lt_succ ready.enough
      have begin : Resolves above (fun other => busy other ∨ other = id)
          (fun other => ∃ child, above child = some id ∧ Reaches above other child)
          (fun other => (installed.pending other).ent.isSome) installed installed [id] :=
        ⟨rfl, ⟨[], (append_nil _).symm, trivial, forall_mem_nil _⟩,
          Cleared.refl _ _, entered.linked⟩
      rcases foldl_resolveChild forest (ih _) entered.fitting entered.isType isPending bound
          waiting.childTypes
          (fun child isChild => entered.fitting.child id child (listed ▸ isChild))
          (installed, [id]) begin with ⟨loop, settled, kept⟩
      exact entered.achieves_erased loop
        (fun child isListed => settled child (.inl (listed ▸ isListed)))
        (kept id (mem_singleton_self id))

end Forest

end TypeResolver

end Cyphesis.Ai
