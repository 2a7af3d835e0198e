import Cyphesis.Ai.TypeResolver

/-!
# Types in any order of arrival

The types of a forest arrive in any order, some more than once, and others are requested.
-/

namespace Cyphesis.Ai

open Std (ExtTreeMap)
open Cyphesis.Foundation List Option Std.ExtTreeMap

namespace TypeResolver

section

variable (state : TypeResolver)

theorem pending_insert (id other : String) (entry : PendingType) :
    TypeResolver.pending { state with pendingTypes := state.pendingTypes.insert id entry } other =
      if other = id then entry else state.pending other := by
  rw [pending, ExtTreeMap.getElem?_insert]
  by_cases same : other = id
  · simp [same]
  · simp [same, Ne.symm same, pending]

theorem types_requestType (id : String) : (state.requestType id).types = state.types := by
  unfold requestType
  repeat' split
  all_goals rfl

theorem pending_requestType (id : String) : (state.requestType id).pending = state.pending := by
  unfold requestType
  split
  · rfl
  · split
    · rfl
    · rename_i absent
      funext other
      have inserted := pending_insert state id other ⟨none, []⟩
      by_cases same : other = id
      · subst same
        have unknown : state.pending other = ⟨none, []⟩ := by
          rw [pending, absent]
          rfl
        rw [if_pos rfl] at inserted
        rw [unknown]
        exact inserted
      · rw [if_neg same] at inserted
        exact inserted

theorem types_wait (id parent : String) (data : TypeData) :
    (state.wait id parent data).types = state.types :=
  types_requestType _ _

end

variable {id parent : String}

section

variable (state : TypeResolver) (data : TypeData) (different : id ≠ parent)

include state data different

theorem pending_wait (other : String) :
    (state.wait id parent data).pending other =
      if other = parent then
        { state.pending parent with childTypes := (state.pending parent).childTypes.insert id }
      else if other = id then { state.pending id with ent := some data }
      else state.pending other := by
  rw [wait, pending_insert]
  simp only [pending_requestType, pending_insert, if_neg (Ne.symm different)]

theorem isSome_ent_wait (other : String) :
    ((state.wait id parent data).pending other).ent.isSome ↔
      other = id ∨ (state.pending other).ent.isSome := by
  rw [pending_wait state data different]
  by_cases isParent : other = parent
  · subst isParent
    simp [Ne.symm different]
  · by_cases isId : other = id
    · simp [isId, different]
    · simp [isParent, isId]

theorem mem_childTypes_wait (other child : String) :
    child ∈ ((state.wait id parent data).pending other).childTypes ↔
      child ∈ (state.pending other).childTypes ∨ other = parent ∧ child = id := by
  rw [pending_wait state data different]
  by_cases isParent : other = parent
  · subst isParent
    simp [or_comm]
  · by_cases isId : other = id
    · simp [isId, different]
    · simp [isParent, isId]

end

/-- What the resolver of types is called with. -/
inductive ResolverEvent where
  /-- An Info, with its first argument. -/
  | info (arg : Option TypeData)
  /-- A type is asked for. -/
  | request (id : String)

/-- The resolver, with the messages that have arrived and the last result. -/
structure Arrivals where
  resolver : TypeResolver
  arrived : List String
  resolved : List String

namespace Arrivals

def start (types : List String) : Arrivals :=
  ⟨⟨types, ∅, []⟩, [], []⟩

/-- The type an Info is about. -/
def subject (arg : Option TypeData) : Option String :=
  (arg.filter isTypeData).bind TypeData.id

def step (state : Arrivals) : ResolverEvent → Arrivals
  | .info arg =>
    let outcome := state.resolver.infoOperation arg
    ⟨outcome.1, state.arrived ++ (subject arg).toList, outcome.2⟩
  | .request id => ⟨state.resolver.requestType id, state.arrived, []⟩

end Arrivals

variable (above : String → Option String)

/-- Data name the parent of the type. -/
def Fits : ResolverEvent → Prop
  | .info (some data) => ∀ id, data.id = some id → data.parent = above id
  | _ => True

/-- What the store is to hold. -/
inductive Supported (initial arrived : List String) : String → Prop where
  | initial {id : String} (isInitial : id ∈ initial) : Supported initial arrived id
  | root {id : String} (isArrived : id ∈ arrived) (isRoot : above id = none) :
      Supported initial arrived id
  | child {id parent : String} (isArrived : id ∈ arrived) (isChild : above id = some parent)
      (supported : Supported initial arrived parent) : Supported initial arrived id

/-- After the types `arrived`. -/
structure Kept (initial arrived : List String) (state : TypeResolver) : Prop where
  fitting : Fitting above state
  linked : Linked above (fun _ => False) state
  installs : ∃ added, state.types = initial ++ added ∧ Installs above initial added ∧
    ∀ id ∈ added, id ∈ arrived
  waits : ∀ id ∈ arrived, id ∈ state.types ∨ (state.pending id).ent.isSome
  heard : ∀ id, (state.pending id).ent.isSome → id ∈ arrived
  distinct : state.gets.Nodup
  asked : ∀ id ∈ state.gets, id ∈ state.types ∨ id ∈ state.pendingTypes

variable {above} {initial arrived : List String} {state : TypeResolver}

theorem Kept.start (types : List String) : Kept above types [] ⟨types, ∅, []⟩ := by
  have nothing : ∀ id, TypeResolver.pending ⟨types, ∅, []⟩ id = ⟨none, []⟩ := by
    intro id
    simp [pending]
  constructor
  · constructor
    · intro id ent isEnt
      rw [nothing] at isEnt
      cases isEnt
    · intro id child isChild
      rw [nothing] at isChild
      cases isChild
  · intro id isWaiting
    rw [nothing] at isWaiting
    cases isWaiting
  · exact ⟨[], (append_nil types).symm, trivial, forall_mem_nil _⟩
  · exact forall_mem_nil _
  · intro id isWaiting
    rw [nothing] at isWaiting
    cases isWaiting
  · exact nodup_nil
  · exact forall_mem_nil _

section

variable (state)

theorem gets_requestType (id : String) :
    (state.requestType id).gets = state.gets ∧
        (state.requestType id).pendingTypes = state.pendingTypes ∨
      id ∉ state.types ∧ id ∉ state.pendingTypes ∧
        (state.requestType id).gets = state.gets ++ [id] ∧
        (state.requestType id).pendingTypes = state.pendingTypes.insert id ⟨none, []⟩ := by
  unfold requestType
  split
  · exact .inl ⟨rfl, rfl⟩
  · split
    · exact .inl ⟨rfl, rfl⟩
    · rename_i isUnknown _ absent
      refine .inr ⟨isUnknown, ?_, rfl, rfl⟩
      rw [mem_iff_isSome_getElem?, absent]
      exact Bool.false_ne_true

theorem asked_requestType (distinct : state.gets.Nodup)
    (asked : ∀ id ∈ state.gets, id ∈ state.types ∨ id ∈ state.pendingTypes) (id : String) :
    (state.requestType id).gets.Nodup ∧ ∀ other ∈ (state.requestType id).gets,
      other ∈ (state.requestType id).types ∨ other ∈ (state.requestType id).pendingTypes := by
  rw [types_requestType]
  rcases gets_requestType state id with
    ⟨gets, pendingTypes⟩ | ⟨isUnknown, absent, gets, pendingTypes⟩
  · rw [gets, pendingTypes]
    exact ⟨distinct, asked⟩
  · rw [gets, pendingTypes]
    constructor
    · rw [nodup_append]
      refine ⟨distinct, nodup_singleton id, ?_⟩
      rintro other isAsked new isNew rfl
      rw [List.mem_singleton.mp isNew] at isAsked
      rcases asked id isAsked with isType | isPending
      · exact isUnknown isType
      · exact absent isPending
    · intro other isAsked
      rw [ExtTreeMap.mem_insert]
      rcases List.mem_append.mp isAsked with isOld | isNew
      · rcases asked other isOld with isType | isPending
        · exact .inl isType
        · exact .inr (.inr isPending)
      · rw [List.mem_singleton.mp isNew]
        exact .inr (.inl (by simp))

end

theorem asked_insert {id : String} {entry : PendingType}
    (asked : ∀ id ∈ state.gets, id ∈ state.types ∨ id ∈ state.pendingTypes) :
    ∀ other ∈ state.gets, other ∈ state.types ∨ other ∈ state.pendingTypes.insert id entry := by
  intro other isAsked
  rcases asked other isAsked with isType | isPending
  · exact .inl isType
  · exact .inr (ExtTreeMap.mem_insert.mpr (.inr isPending))

theorem asked_wait (distinct : state.gets.Nodup)
    (asked : ∀ id ∈ state.gets, id ∈ state.types ∨ id ∈ state.pendingTypes) (id parent : String)
    (data : TypeData) :
    (state.wait id parent data).gets.Nodup ∧ ∀ other ∈ (state.wait id parent data).gets,
      other ∈ (state.wait id parent data).types ∨
        other ∈ (state.wait id parent data).pendingTypes := by
  obtain ⟨distinctNow, askedNow⟩ := asked_requestType
    { state with
      pendingTypes := state.pendingTypes.insert id { state.pending id with ent := some data } }
    distinct (asked_insert asked) parent
  exact ⟨distinctNow, asked_insert askedNow⟩

theorem Kept.request (kept : Kept above initial arrived state) (id : String) :
    Kept above initial arrived (state.requestType id) := by
  have types := types_requestType state id
  have pending := pending_requestType state id
  obtain ⟨distinct, asked⟩ := asked_requestType state kept.distinct kept.asked id
  refine ⟨⟨?_, ?_⟩, ?_, ?_, ?_, ?_, distinct, asked⟩
  · rw [pending]
    exact kept.fitting.data
  · rw [pending]
    exact kept.fitting.child
  · unfold Linked
    rw [types, pending]
    exact kept.linked
  · rw [types]
    exact kept.installs
  · rw [types, pending]
    exact kept.waits
  · rw [pending]
    exact kept.heard

theorem Kept.wait (kept : Kept above initial arrived state) {data : TypeData}
    (isId : data.id = some id) (isParent : data.parent = some parent)
    (isAbove : above id = some parent) (different : id ≠ parent)
    (isUnknown : parent ∉ state.types) :
    Kept above initial (arrived ++ [id]) (state.wait id parent data) := by
  constructor
  · constructor
    · intro other ent isEnt
      rw [pending_wait state data different] at isEnt
      by_cases isElder : other = parent
      · rw [if_pos isElder] at isEnt
        rw [isElder]
        exact kept.fitting.data parent ent isEnt
      · rw [if_neg isElder] at isEnt
        by_cases isSelf : other = id
        · rw [if_pos isSelf] at isEnt
          cases isEnt
          rw [isSelf, isAbove]
          exact ⟨isId, isParent⟩
        · rw [if_neg isSelf] at isEnt
          exact kept.fitting.data other ent isEnt
    · intro other child isChild
      rcases (mem_childTypes_wait state data different other child).mp isChild with isOld | isNew
      · exact kept.fitting.child other child isOld
      · rw [isNew.1, isNew.2]
        exact isAbove
  · intro other isWaiting
    rw [types_wait]
    rcases (isSome_ent_wait state data different other).mp isWaiting with rfl | isOld
    · exact ⟨parent, isAbove, isUnknown,
        (mem_childTypes_wait state data different _ _).mpr (.inr ⟨rfl, rfl⟩)⟩
    · obtain ⟨elder, isElder, notYet, isListed⟩ := kept.linked other isOld
      exact ⟨elder, isElder, notYet, (mem_childTypes_wait state data different _ _).mpr
        (.inl isListed)⟩
  · rw [types_wait]
    obtain ⟨added, types, installs, fromArrived⟩ := kept.installs
    exact ⟨added, types, installs, fun other isAdded =>
      mem_append_left _ (fromArrived other isAdded)⟩
  · intro other isArrived
    rw [types_wait, isSome_ent_wait state data different]
    rcases List.mem_append.mp isArrived with isOld | isNew
    · rcases kept.waits other isOld with isType | isWaiting
      · exact .inl isType
      · exact .inr (.inr isWaiting)
    · exact .inr (.inl (List.mem_singleton.mp isNew))
  · intro other isWaiting
    rcases (isSome_ent_wait state data different other).mp isWaiting with rfl | isOld
    · exact mem_append_right _ (mem_singleton_self other)
    · exact mem_append_left _ (kept.heard other isOld)
  · exact (asked_wait kept.distinct kept.asked id parent data).1
  · exact (asked_wait kept.distinct kept.asked id parent data).2

/-- The parent is in the store. -/
theorem Kept.resolve (forest : ∀ id, Grounded above id) (kept : Kept above initial arrived state)
    {id : String} {data : TypeData} (isId : data.id = some id) (isParent : data.parent = above id)
    (known : ∀ parent, above id = some parent → parent ∈ state.types) :
    Kept above initial (arrived ++ [id])
        (resolveType (state.pendingTypes.size + 1) state id data).1 ∧
      ∀ other ∈ (resolveType (state.pendingTypes.size + 1) state id data).1.types,
        other ∉ state.types →
        other ∈ (resolveType (state.pendingTypes.size + 1) state id data).2 := by
  have ready : Ready above (fun _ => False) (state.pendingTypes.size + 1) state id data :=
    { fitting := kept.fitting
      linked := kept.linked
      ownId := isId
      parent := isParent
      known := known
      enough := Nat.lt_succ_of_le (card_pendingBelow_le state id) }
  obtain ⟨resolves, -, isType, -⟩ := resolveType_achieves forest _ _ state id data ready
  generalize resolveType (state.pendingTypes.size + 1) state id data = outcome at resolves isType
  obtain ⟨added, types, installs, reported⟩ := resolves.installs
  obtain ⟨before, typesBefore, installsBefore, fromArrived⟩ := kept.installs
  have stays : ∀ other, (state.pending other).ent.isSome →
      other ∈ outcome.1.types ∨ (outcome.1.pending other).ent.isSome := by
    intro other isWaiting
    rcases resolves.cleared other with same | ⟨-, -, isKnown⟩
    · right
      rw [pending, same]
      exact isWaiting
    · exact .inl isKnown
  constructor
  · constructor
    · exact kept.fitting.of_cleared resolves.cleared
    · exact resolves.linked
    · refine ⟨before ++ added, ?_, ?_, ?_⟩
      · rw [types, typesBefore, append_assoc]
      · rw [typesBefore] at installs
        exact installsBefore.append installs
      · intro other isAdded
        rcases List.mem_append.mp isAdded with isOld | isNew
        · exact mem_append_left _ (fromArrived other isOld)
        · rcases (reported other isNew).2 with rfl | isWaiting
          · exact mem_append_right _ (mem_singleton_self other)
          · exact mem_append_left _ (kept.heard other isWaiting)
    · intro other isArrived
      rcases List.mem_append.mp isArrived with isOld | isNew
      · rcases kept.waits other isOld with isKnown | isWaiting
        · exact .inl (resolves.types_mono other isKnown)
        · exact stays other isWaiting
      · rw [List.mem_singleton.mp isNew]
        exact .inl isType
    · intro other isWaiting
      apply mem_append_left
      apply kept.heard other
      rcases pending_of_cleared resolves.cleared other with same | erased
      · rwa [same] at isWaiting
      · rw [erased] at isWaiting
        cases isWaiting
    · rw [resolves.gets]
      exact kept.distinct
    · intro other isAsked
      rw [resolves.gets] at isAsked
      rcases kept.asked other isAsked with isKnown | isPending
      · exact .inl (resolves.types_mono other isKnown)
      · rcases resolves.cleared other with same | ⟨-, -, isKnown⟩
        · right
          rw [mem_iff_isSome_getElem?] at isPending ⊢
          rwa [same]
        · exact .inl isKnown
  · intro other isKnown isNew
    rw [types] at isKnown
    rcases List.mem_append.mp isKnown with isOld | isAdded
    · exact absurd isOld isNew
    · exact (reported other isAdded).1

/-- What is added to the store is returned. -/
theorem Kept.step (forest : ∀ id, Grounded above id) {arrivals : Arrivals}
    (kept : Kept above initial arrivals.arrived arrivals.resolver) {event : ResolverEvent}
    (fits : Fits above event) :
    Kept above initial (arrivals.step event).arrived (arrivals.step event).resolver ∧
      ∀ id ∈ (arrivals.step event).resolver.types, id ∉ arrivals.resolver.types →
        id ∈ (arrivals.step event).resolved := by
  cases event with
  | request id =>
    refine ⟨kept.request id, ?_⟩
    intro other isKnown isNew
    rw [Arrivals.step, types_requestType] at isKnown
    exact absurd isKnown isNew
  | info arg =>
    have unchanged : Arrivals.subject arg = none →
        arrivals.resolver.infoOperation arg = (arrivals.resolver, []) →
        Kept above initial (arrivals.step (.info arg)).arrived
          (arrivals.step (.info arg)).resolver ∧
          ∀ id ∈ (arrivals.step (.info arg)).resolver.types, id ∉ arrivals.resolver.types →
            id ∈ (arrivals.step (.info arg)).resolved := by
      intro noSubject same
      simp only [Arrivals.step, noSubject, same, toList_none, append_nil]
      exact ⟨kept, fun id isKnown isNew => absurd isKnown isNew⟩
    cases arg with
    | none => exact unchanged rfl rfl
    | some data =>
      by_cases isType : isTypeData data = true
      · cases isId : data.id with
        | none =>
          apply unchanged
          · simp [Arrivals.subject, Option.filter, isType, isId]
          · simp [infoOperation, isType, processTypeData, isId]
        | some id =>
          have subject : Arrivals.subject (some data) = some id := by
            simp [Arrivals.subject, Option.filter, isType, isId]
          have parent := fits id isId
          simp only [Arrivals.step, subject, infoOperation, isType, if_true, processTypeData,
            isId, toList_some]
          cases isParent : data.parent with
          | none =>
            rw [isParent] at parent
            apply kept.resolve forest isId (isParent.trans parent)
            intro elder isElder
            rw [← parent] at isElder
            cases isElder
          | some above =>
            rw [isParent] at parent
            by_cases isKnown : above ∈ arrivals.resolver.types
            · simp only [isKnown, if_true]
              apply kept.resolve forest isId (isParent.trans parent)
              intro elder isElder
              rw [← parent] at isElder
              cases isElder
              exact isKnown
            · simp only [isKnown, if_false]
              have different : id ≠ above := by
                rintro rfl
                exact (forest id).not_reaches_of_parent parent.symm (Reaches.refl _ id)
              refine ⟨kept.wait isId isParent parent.symm different isKnown, ?_⟩
              intro other isOld isNew
              rw [types_wait] at isOld
              exact absurd isOld isNew
      · apply unchanged
        · simp [Arrivals.subject, isType]
        · simp [infoOperation, isType]

theorem Installs.supported {types added : List String} (installs : Installs above types added)
    (known : ∀ id ∈ types, Supported above initial arrived id)
    (fromArrived : ∀ id ∈ added, id ∈ arrived) :
    ∀ id ∈ types ++ added, Supported above initial arrived id := by
  induction added generalizing types with
  | nil =>
    rw [append_nil]
    exact known
  | cons first rest ih =>
    obtain ⟨-, isKnown, others⟩ := installs
    have isSupported : Supported above initial arrived first := by
      have isArrived := fromArrived first mem_cons_self
      cases isChild : above first with
      | none => exact .root isArrived isChild
      | some parent => exact .child isArrived isChild (known parent (isKnown parent isChild))
    have step := ih others (by
      intro id isType
      rcases List.mem_append.mp isType with isOld | isNew
      · exact known id isOld
      · rw [List.mem_singleton.mp isNew]
        exact isSupported) fun id isRest => fromArrived id (mem_cons_of_mem first isRest)
    rwa [append_assoc] at step

theorem Kept.mem_types_iff (kept : Kept above initial arrived state) (id : String) :
    id ∈ state.types ↔ Supported above initial arrived id := by
  obtain ⟨added, types, installs, fromArrived⟩ := kept.installs
  constructor
  · intro isType
    rw [types] at isType
    exact installs.supported (fun other isInitial => .initial isInitial) fromArrived id isType
  · intro supported
    induction supported with
    | initial isInitial =>
      rw [types]
      exact mem_append_left added isInitial
    | root isArrived isRoot =>
      rcases kept.waits _ isArrived with isType | isWaiting
      · exact isType
      · obtain ⟨parent, isChild, -⟩ := kept.linked _ isWaiting
        rw [isRoot] at isChild
        cases isChild
    | child isArrived isChild _ parentIsType =>
      rcases kept.waits _ isArrived with isType | isWaiting
      · exact isType
      · obtain ⟨parent, isParent, notYet, -⟩ := kept.linked _ isWaiting
        rw [isChild] at isParent
        cases isParent
        exact absurd (notYet parentIsType) not_false

/-- Each type whose chain of parents has arrived is in the store, after its parent, and is returned
by the call that adds it. -/
theorem run_resolves (above : String → Option String) (forest : ∀ id, Grounded above id)
    (initial : List String) (events : List ResolverEvent)
    (fits : ∀ event ∈ events, Fits above event) :
    (∃ added, (run Arrivals.step (.start initial) events).resolver.types = initial ++ added ∧
      Installs above initial added) ∧
    (∀ id, id ∈ (run Arrivals.step (.start initial) events).resolver.types ↔
      Supported above initial (run Arrivals.step (.start initial) events).arrived id) ∧
    (∀ event, Fits above event → ∀ id,
      ¬Supported above initial (run Arrivals.step (.start initial) events).arrived id →
      Supported above initial ((run Arrivals.step (.start initial) events).step event).arrived id →
      id ∈ ((run Arrivals.step (.start initial) events).step event).resolver.types ∧
        id ∈ ((run Arrivals.step (.start initial) events).step event).resolved) ∧
    (run Arrivals.step (.start initial) events).resolver.gets.Nodup := by
  have kept : Kept above initial (run Arrivals.step (.start initial) events).arrived
      (run Arrivals.step (.start initial) events).resolver := by
    apply run_invariant_of_mem
      (fun arrivals : Arrivals => Kept above initial arrivals.arrived arrivals.resolver)
    · intro arrivals event isEvent kept
      exact (kept.step forest (fits event isEvent)).1
    · exact Kept.start initial
  refine ⟨?_, kept.mem_types_iff, ?_, kept.distinct⟩
  · obtain ⟨added, types, installs, -⟩ := kept.installs
    exact ⟨added, types, installs⟩
  · intro event fitsNext id unsupported supported
    obtain ⟨keptNext, returned⟩ := kept.step forest fitsNext
    have isType := (keptNext.mem_types_iff id).mpr supported
    refine ⟨isType, returned id isType ?_⟩
    rw [kept.mem_types_iff]
    exact unsupported

/-- Types in a row below a known one. -/
def chain : String → Option String
  | "b" => some "a"
  | "a" => some "root"
  | _ => none

theorem chain_grounded (id : String) : Grounded chain id := by
  have rootGrounded : Grounded chain "root" := ⟨"root", rfl, Reaches.refl chain "root"⟩
  have aGrounded : Grounded chain "a" := rootGrounded.of_parent rfl
  by_cases isB : id = "b"
  · rw [isB]
    exact aGrounded.of_parent rfl
  · by_cases isA : id = "a"
    · rw [isA]
      exact aGrounded
    · refine ⟨id, ?_, Reaches.refl chain id⟩
      unfold chain
      split
      · exact absurd rfl isB
      · exact absurd rfl isA
      · rfl

/-- A type whose parent comes later. -/
theorem run_resolves_child_first :
    "b" ∈ (run Arrivals.step (.start ["root"])
      [.info (some ⟨some "class", some "b", some "a"⟩), .request "b",
        .info (some ⟨some "class", some "a", some "root"⟩)]).resolver.types := by
  apply ((run_resolves chain chain_grounded ["root"] _ _).2.1 "b").mpr
  · have arrived : (run Arrivals.step (.start ["root"])
        [.info (some ⟨some "class", some "b", some "a"⟩), .request "b",
          .info (some ⟨some "class", some "a", some "root"⟩)]).arrived = ["b", "a"] := by
      decide +kernel
    rw [arrived]
    exact .child (by simp) rfl (.child (by simp) rfl (.initial (by simp)))
  · intro event isEvent
    simp only [mem_cons, not_mem_nil, or_false] at isEvent
    rcases isEvent with rfl | rfl | rfl
    · intro id isId
      cases isId
      rfl
    · trivial
    · intro id isId
      cases isId
      rfl

end TypeResolver

end Cyphesis.Ai
