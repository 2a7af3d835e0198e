import Cyphesis.Ai.TypeArrival

/-!
# Types that wait for themselves

`resolveType` goes down to the types that wait for a type. The recursion has a bound on its depth
here, and no result where that is reached.
-/

namespace Cyphesis.Ai

open Std (ExtTreeMap)
open Cyphesis.Foundation List Option Std.ExtTreeMap Finset

namespace TypeResolver

/-- One turn of the loop over waiting types. -/
def resolveChild? (resolve : TypeResolver → String → TypeData → Option (TypeResolver × List String))
    (current : TypeResolver × List String) (child : String) : Option (TypeResolver × List String) :=
  match (current.1.pending child).ent with
  | none => some current
  | some ent => (resolve current.1 child ent).map fun below => (below.1, current.2 ++ below.2)

/-- `resolveType`, if that ends. -/
def resolveType? : Nat → TypeResolver → String → TypeData → Option (TypeResolver × List String)
  | 0, _, _, _ => none
  | depth + 1, state, id, ent =>
    match if id ∈ state.types then some state else state.addChild ent with
    | none => some (state, [])
    | some installed =>
      match installed.pendingTypes[id]? with
      | none => some (installed, [id])
      | some waiting =>
        (waiting.childTypes.foldlM (resolveChild? (resolveType? depth)) (installed, [id])).map
          fun resolved => (resolved.1.erasePending id, resolved.2)

/-- `processTypeData`, if that ends. -/
def processTypeData? (depth : Nat) (state : TypeResolver) (data : TypeData) :
    Option (TypeResolver × List String) :=
  match data.id with
  | none => some (state, [])
  | some id =>
    match data.parent with
    | none => resolveType? depth state id data
    | some parent =>
      if parent ∈ state.types then resolveType? depth state id data
      else some (state.wait id parent data, [])

/-- The call ends, and resolves no type twice. -/
def CallEnds (state : TypeResolver) (data : TypeData) : Prop :=
  (∃ depth, processTypeData? depth state data = some (state.processTypeData data)) ∧
    (state.processTypeData data).2.Nodup

/-- A kept type is noted with another. -/
def Waits (state : TypeResolver) (id child : String) : Prop :=
  child ∈ (state.pending id).childTypes ∧ (state.pending child).ent.isSome = true

/-- No type waits for itself, directly or not. -/
def NoCycleBelow (state : TypeResolver) (id : String) : Prop :=
  ∀ other, Relation.ReflTransGen state.Waits id other → ¬Relation.TransGen state.Waits other other

/-- Types wait in no circle. -/
def NoCycle (state : TypeResolver) (data : TypeData) : Prop :=
  ∀ id, data.id = some id → (∀ parent, data.parent = some parent → parent ∈ state.types) →
    state.NoCycleBelow id

/-- Entries are only taken out. -/
def Shrinks (before after : TypeResolver) : Prop :=
  ∀ id : String, after.pendingTypes[id]? = before.pendingTypes[id]? ∨ after.pendingTypes[id]? = none

variable {before after state : TypeResolver} {id child : String}

theorem Shrinks.of_eq (same : after.pendingTypes = before.pendingTypes) : Shrinks before after := by
  intro id
  exact .inl (by rw [same])

theorem Shrinks.trans {middle : TypeResolver} (first : Shrinks before middle)
    (second : Shrinks middle after) : Shrinks before after := by
  intro id
  rcases second id with same | erased
  · rw [same]
    exact first id
  · exact .inr erased

theorem shrinks_erasePending (state : TypeResolver) (id : String) :
    Shrinks state (state.erasePending id) := by
  intro other
  by_cases same : other = id
  · rw [same]
    exact .inr (getElem?_erasePending_self state id)
  · exact .inl (getElem?_erasePending_of_ne state same)

section

variable (shrinks : Shrinks before after)

include shrinks

theorem Shrinks.pending (id : String) :
    after.pending id = before.pending id ∨ after.pending id = ⟨none, []⟩ := by
  rcases shrinks id with same | erased
  · left
    rw [TypeResolver.pending, TypeResolver.pending, same]
  · right
    rw [TypeResolver.pending, erased]
    rfl

theorem Shrinks.ent (isWaiting : (after.pending id).ent.isSome = true) :
    (before.pending id).ent.isSome = true := by
  rcases shrinks.pending id with same | erased
  · rwa [same] at isWaiting
  · rw [erased] at isWaiting
    cases isWaiting

theorem Shrinks.waits (id child : String) (waits : after.Waits id child) :
    before.Waits id child := by
  refine ⟨?_, shrinks.ent waits.2⟩
  rcases shrinks.pending id with same | erased
  · rw [← same]
    exact waits.1
  · have listed := waits.1
    rw [erased] at listed
    cases listed

theorem Shrinks.reaches {other : String} (reaches : Relation.ReflTransGen after.Waits id other) :
    Relation.ReflTransGen before.Waits id other :=
  Relation.ReflTransGen.mono shrinks.waits id other reaches

end

theorem NoCycleBelow.of_waits (noCycle : before.NoCycleBelow id) (shrinks : Shrinks before after)
    (waits : before.Waits id child) : after.NoCycleBelow child := by
  intro other reaches cycle
  exact noCycle other (.head waits (shrinks.reaches reaches))
    (Relation.TransGen.mono shrinks.waits other other cycle)

/-- What waits for a type, and itself. -/
noncomputable def waitingBelow (state : TypeResolver) (id : String) : Finset String :=
  open Classical in state.pendingTypes.keys.toFinset.filter (Relation.ReflTransGen state.Waits id)

theorem mem_waitingBelow {other : String} :
    other ∈ waitingBelow state id ↔
      other ∈ state.pendingTypes ∧ Relation.ReflTransGen state.Waits id other := by
  simp [waitingBelow]

theorem card_waitingBelow_le (state : TypeResolver) (id : String) :
    (waitingBelow state id).card ≤ state.pendingTypes.size := by
  calc (waitingBelow state id).card ≤ state.pendingTypes.keys.toFinset.card := by
        apply card_le_card
        intro other isBelow
        simpa using (mem_waitingBelow.mp isBelow).1
    _ ≤ state.pendingTypes.keys.length := toFinset_card_le _
    _ = state.pendingTypes.size := length_keys

theorem Shrinks.mem (shrinks : Shrinks before after) (isPending : id ∈ after.pendingTypes) :
    id ∈ before.pendingTypes := by
  rw [mem_iff_isSome_getElem?] at isPending ⊢
  rcases shrinks id with same | erased
  · rwa [same] at isPending
  · rw [erased] at isPending
    cases isPending

theorem card_waitingBelow_lt (noCycle : before.NoCycleBelow id) (shrinks : Shrinks before after)
    (waits : before.Waits id child) (isPending : id ∈ before.pendingTypes) :
    (waitingBelow after child).card < (waitingBelow before id).card := by
  apply card_lt_card
  rw [ssubset_iff_of_subset]
  · refine ⟨id, mem_waitingBelow.mpr ⟨isPending, .refl⟩, ?_⟩
    intro isBelow
    have reaches := shrinks.reaches (mem_waitingBelow.mp isBelow).2
    exact noCycle id .refl (Relation.TransGen.head' waits reaches)
  · intro other isBelow
    rcases mem_waitingBelow.mp isBelow with ⟨isOther, reaches⟩
    exact mem_waitingBelow.mpr ⟨shrinks.mem isOther, .head waits (shrinks.reaches reaches)⟩

/-- Types below the first, resolved once. -/
structure Outcome (state : TypeResolver) (id : String) (result : TypeResolver × List String) :
    Prop where
  shrinks : Shrinks state result.1
  below : ∀ other ∈ result.2, Relation.ReflTransGen state.Waits id other
  nodup : result.2.Nodup
  erased : ∀ other ∈ result.2, result.1.pendingTypes[other]? = none

/-- Inside the loop the first is pending. -/
structure Underway (state : TypeResolver) (id : String) (current : TypeResolver × List String) :
    Prop where
  shrinks : Shrinks state current.1
  below : ∀ other ∈ current.2, Relation.ReflTransGen state.Waits id other
  nodup : current.2.Nodup
  erased : ∀ other ∈ current.2, other ≠ id → current.1.pendingTypes[other]? = none

theorem Underway.start (state : TypeResolver) (id : String) : Underway state id (state, [id]) where
  shrinks := .of_eq rfl
  below := by
    intro other isResolved
    rw [List.mem_singleton.mp isResolved]
  nodup := nodup_singleton id
  erased := by
    intro other isResolved different
    exact absurd (List.mem_singleton.mp isResolved) different

theorem ent_eq_none_of_erased {id : String} (erased : state.pendingTypes[id]? = none) :
    (state.pending id).ent = none := by
  rw [pending, erased]
  rfl

theorem isSome_ent_of_reaches {other : String} (isWaiting : (state.pending id).ent.isSome = true)
    (reaches : Relation.ReflTransGen state.Waits id other) :
    (state.pending other).ent.isSome = true := by
  rcases reaches.cases_tail with rfl | ⟨middle, -, waits⟩
  · exact isWaiting
  · exact waits.2

variable {current : TypeResolver × List String}

theorem Underway.turn (underway : Underway state id current)
    (noCycle : state.NoCycleBelow id) (waits : state.Waits id child)
    (isWaiting : (current.1.pending child).ent.isSome = true)
    {result : TypeResolver × List String} (outcome : Outcome current.1 child result) :
    Underway state id (result.1, current.2 ++ result.2) := by
  have reaches : ∀ other ∈ result.2, Relation.ReflTransGen state.Waits child other :=
    fun other isResolved => underway.shrinks.reaches (outcome.below other isResolved)
  constructor
  · exact underway.shrinks.trans outcome.shrinks
  · intro other isResolved
    rcases List.mem_append.mp isResolved with isEarlier | isLater
    · exact underway.below other isEarlier
    · exact .head waits (reaches other isLater)
  · apply List.nodup_append.mpr
    refine ⟨underway.nodup, outcome.nodup, ?_⟩
    rintro other isEarlier _ isLater rfl
    by_cases same : other = id
    · rw [same] at isLater
      exact noCycle id .refl (Relation.TransGen.head' waits (reaches id isLater))
    · have gone := ent_eq_none_of_erased (underway.erased other isEarlier same)
      have kept := isSome_ent_of_reaches isWaiting (outcome.below other isLater)
      rw [gone] at kept
      cases kept
  · intro other isResolved different
    rcases List.mem_append.mp isResolved with isEarlier | isLater
    · rcases outcome.shrinks other with same | erased
      · rw [same]
        exact underway.erased other isEarlier different
      · exact erased
    · exact outcome.erased other isLater

theorem Underway.finish
    (underway : Underway state id current) :
    Outcome state id (current.1.erasePending id, current.2) where
  shrinks := underway.shrinks.trans (shrinks_erasePending _ _)
  below := underway.below
  nodup := underway.nodup
  erased := by
    intro other isResolved
    by_cases same : other = id
    · rw [same]
      exact getElem?_erasePending_self _ id
    · rw [getElem?_erasePending_of_ne _ same]
      exact underway.erased other isResolved same

theorem foldlM_resolveChild? {depth : Nat}
    (ends : ∀ state id ent, state.NoCycleBelow id → (waitingBelow state id).card < depth →
      resolveType? depth state id ent = some (resolveType depth state id ent) ∧
        Outcome state id (resolveType depth state id ent))
    (noCycle : state.NoCycleBelow id) (isPending : id ∈ state.pendingTypes)
    (enough : (waitingBelow state id).card ≤ depth) (children : List String)
    (listed : children ⊆ (state.pending id).childTypes) (current : TypeResolver × List String)
    (underway : Underway state id current) :
    children.foldlM (resolveChild? (resolveType? depth)) current =
        some (children.foldl (resolveChild (resolveType depth)) current) ∧
      Underway state id (children.foldl (resolveChild (resolveType depth)) current) := by
  induction children generalizing current with
  | nil => exact ⟨rfl, underway⟩
  | cons child rest ih =>
    have listedRest : rest ⊆ (state.pending id).childTypes :=
      fun other isRest => listed (List.mem_cons_of_mem child isRest)
    rw [foldlM_cons, foldl_cons]
    cases isEnt : (current.1.pending child).ent with
    | none =>
      have skips : resolveChild (resolveType depth) current child = current := by
        rw [resolveChild, isEnt]
      have skips? : resolveChild? (resolveType? depth) current child = some current := by
        rw [resolveChild?, isEnt]
      rw [skips, skips?]
      exact ih listedRest current underway
    | some ent =>
      have isWaiting : (current.1.pending child).ent.isSome = true := by
        rw [isEnt]
        rfl
      have waits : state.Waits id child :=
        ⟨listed List.mem_cons_self, underway.shrinks.ent isWaiting⟩
      have fewer := card_waitingBelow_lt noCycle underway.shrinks waits isPending
      rcases ends current.1 child ent (noCycle.of_waits underway.shrinks waits)
        (fewer.trans_le enough) with ⟨isResult, outcome⟩
      have turn : resolveChild (resolveType depth) current child =
          ((resolveType depth current.1 child ent).1,
            current.2 ++ (resolveType depth current.1 child ent).2) := by
        rw [resolveChild, isEnt]
      have turn? : resolveChild? (resolveType? depth) current child =
          some ((resolveType depth current.1 child ent).1,
            current.2 ++ (resolveType depth current.1 child ent).2) := by
        rw [resolveChild?, isEnt]
        simp only [isResult, map_some]
      rw [turn, turn?]
      exact ih listedRest _ (underway.turn noCycle waits isWaiting outcome)

theorem pendingTypes_addChild {ent : TypeData} {installed : TypeResolver}
    (isInstalled : (if id ∈ state.types then some state else state.addChild ent) = some installed) :
    installed.pendingTypes = state.pendingTypes := by
  split at isInstalled
  · cases isInstalled
    rfl
  · unfold addChild at isInstalled
    dsimp only at isInstalled
    split at isInstalled
    · cases isInstalled
    · split at isInstalled
      · cases isInstalled
      · cases isInstalled
        rfl

/-- It ends, by induction on the bound. -/
theorem resolveType?_eq_some (depth : Nat) (state : TypeResolver) (id : String) (ent : TypeData)
    (noCycle : state.NoCycleBelow id) (enough : (waitingBelow state id).card < depth) :
    resolveType? depth state id ent = some (resolveType depth state id ent) ∧
      Outcome state id (resolveType depth state id ent) := by
  induction depth generalizing state id ent with
  | zero => exact absurd enough (Nat.not_lt_zero _)
  | succ depth ih =>
    unfold resolveType? resolveType
    cases isInstalled : if id ∈ state.types then some state else state.addChild ent with
    | none =>
      exact ⟨rfl, .of_eq rfl, forall_mem_nil _, nodup_nil, forall_mem_nil _⟩
    | some installed =>
      have same := pendingTypes_addChild isInstalled
      have sameWaits : installed.Waits = state.Waits := by
        funext parent child
        rw [Waits, Waits, pending_eq_of_pendingTypes same]
      have toState : ∀ result, Outcome installed id result → Outcome state id result := by
        intro result outcome
        refine ⟨(Shrinks.of_eq same).trans outcome.shrinks, ?_, outcome.nodup, outcome.erased⟩
        rw [← sameWaits]
        exact outcome.below
      simp only
      cases found : installed.pendingTypes[id]? with
      | none =>
        have start := Underway.start installed id
        refine ⟨rfl, toState _ ⟨start.shrinks, start.below, start.nodup, ?_⟩⟩
        intro other isResolved
        rw [List.mem_singleton.mp isResolved]
        exact found
      | some waiting =>
        have isPending : id ∈ installed.pendingTypes := by
          rw [mem_iff_isSome_getElem?, found]
          rfl
        have listed : waiting.childTypes ⊆ (installed.pending id).childTypes := by
          rw [pending, found]
          exact List.Subset.refl _
        have noCycleThere : installed.NoCycleBelow id := by
          unfold NoCycleBelow
          rw [sameWaits]
          exact noCycle
        have bound : (waitingBelow installed id).card ≤ depth := by
          have sameBelow : waitingBelow installed id = waitingBelow state id := by
            ext other
            rw [mem_waitingBelow, mem_waitingBelow, same, sameWaits]
          rw [sameBelow]
          exact Nat.le_of_lt_succ enough
        rcases foldlM_resolveChild? ih noCycleThere isPending bound waiting.childTypes listed
          (installed, [id]) (.start installed id) with ⟨ends, underway⟩
        simp only [ends, map_some]
        exact ⟨trivial, toState _ underway.finish⟩

theorem NoCycle.callEnds {data : TypeData} (noCycle : state.NoCycle data) :
    state.CallEnds data := by
  unfold CallEnds processTypeData? processTypeData
  cases isId : data.id with
  | none => exact ⟨⟨0, rfl⟩, nodup_nil⟩
  | some id =>
    have resolves : state.NoCycleBelow id →
        resolveType? (state.pendingTypes.size + 1) state id data =
            some (resolveType (state.pendingTypes.size + 1) state id data) ∧
          Outcome state id (resolveType (state.pendingTypes.size + 1) state id data) :=
      fun noCycleBelow => resolveType?_eq_some _ state id data noCycleBelow
        (Nat.lt_succ_of_le (card_waitingBelow_le state id))
    cases isParent : data.parent with
    | none =>
      rcases resolves (noCycle id isId (by simp [isParent])) with ⟨ends, outcome⟩
      exact ⟨⟨_, ends⟩, outcome.nodup⟩
    | some parent =>
      by_cases isKnown : parent ∈ state.types
      · rcases resolves (noCycle id isId (by simp [isParent, isKnown])) with ⟨ends, outcome⟩
        simp only [if_pos isKnown]
        exact ⟨⟨_, ends⟩, outcome.nodup⟩
      · simp only [if_neg isKnown]
        exact ⟨⟨0, trivial⟩, nodup_nil⟩

/-- State after a call that ends. -/
def receive (state : TypeResolver) (data : TypeData) : TypeResolver :=
  (state.processTypeData data).1

/-- Every call of the resolver ends, as long as no type that it reaches waits for itself. -/
theorem run_callEnds (types : List String) (messages : List TypeData)
    (noCycles : Admissible receive NoCycle ⟨types, ∅, []⟩ messages) (count : Nat) (data : TypeData)
    (isNext : messages[count]? = some data) :
    (run receive ⟨types, ∅, []⟩ (messages.take count)).CallEnds data :=
  (admissible_iff_getElem?.mp noCycles count data isNext).callEnds

theorem resolveType?_of_waits_each_other (state : TypeResolver) {first second : String}
    {firstEnt secondEnt : TypeData} (isFirst : first ∈ state.types)
    (isSecond : second ∈ state.types)
    (firstWaits : state.pendingTypes[first]? = some ⟨some firstEnt, [second]⟩)
    (secondWaits : state.pendingTypes[second]? = some ⟨some secondEnt, [first]⟩) (depth : Nat)
    (ent : TypeData) :
    resolveType? depth state first ent = none ∧ resolveType? depth state second ent = none := by
  induction depth generalizing ent with
  | zero => exact ⟨rfl, rfl⟩
  | succ depth ih =>
    have ofFirst : (state.pending first).ent = some firstEnt := by
      rw [pending, firstWaits]
      rfl
    have ofSecond : (state.pending second).ent = some secondEnt := by
      rw [pending, secondWaits]
      rfl
    constructor
    · unfold resolveType?
      simp [isFirst, firstWaits, resolveChild?, ofSecond, (ih secondEnt).2]
    · unfold resolveType?
      simp [isSecond, secondWaits, resolveChild?, ofFirst, (ih firstEnt).1]

/-- Data for a type that is a class. -/
def classData (id : String) (parent : Option String) : TypeData :=
  ⟨some "class", some id, parent⟩

theorem circle_never_ends (depth : Nat) :
    processTypeData? depth
        (run receive ⟨[], ∅, []⟩ [classData "oak" (some "tree"), classData "tree" (some "oak")])
        (classData "oak" none) = none := by
  generalize isCircle : run receive ⟨[], ∅, []⟩
    [classData "oak" (some "tree"), classData "tree" (some "oak")] = circle
  have types : circle.types = [] := by
    rw [← isCircle]
    decide
  have oak : circle.pendingTypes["oak"]? =
      some ⟨some (classData "oak" (some "tree")), ["tree"]⟩ := by
    rw [← isCircle]
    decide
  have tree : circle.pendingTypes["tree"]? =
      some ⟨some (classData "tree" (some "oak")), ["oak"]⟩ := by
    rw [← isCircle]
    decide
  have waitsOak : (circle.pending "oak").ent = some (classData "oak" (some "tree")) := by
    rw [pending, oak]
    rfl
  have waitsTree : (circle.pending "tree").ent = some (classData "tree" (some "oak")) := by
    rw [pending, tree]
    rfl
  change resolveType? depth circle "oak" (classData "oak" none) = none
  cases depth with
  | zero => rfl
  | succ depth =>
    -- the first type has been installed, and the second is to be resolved
    have second : resolveType? depth { circle with types := ["oak"] } "tree"
        (classData "tree" (some "oak")) = none := by
      cases depth with
      | zero => rfl
      | succ depth =>
        have again : resolveType? depth { circle with types := ["oak", "tree"] } "oak"
            (classData "oak" (some "tree")) = none :=
          (resolveType?_of_waits_each_other { circle with types := ["oak", "tree"] } (by simp)
            (by simp) oak tree depth _).1
        have waits : TypeResolver.pending { circle with types := ["oak", "tree"] } "oak" =
            circle.pending "oak" := rfl
        simp [resolveType?, addChild, classData, tree, resolveChild?, waits, waitsOak]
        exact again
    have waits : TypeResolver.pending { circle with types := ["oak"] } "tree" =
        circle.pending "tree" := rfl
    simp [resolveType?, addChild, classData, types, oak, resolveChild?, waits, waitsTree]
    exact second

theorem circle_not_callEnds :
    ¬(run receive ⟨[], ∅, []⟩
      [classData "oak" (some "tree"), classData "tree" (some "oak")]).CallEnds
        (classData "oak" none) := by
  rintro ⟨⟨depth, ends⟩, -⟩
  rw [circle_never_ends depth] at ends
  cases ends

/-- A child, its parent, and the type above. -/
theorem run_callEnds_chain :
    Admissible receive NoCycle ⟨["thing"], ∅, []⟩
        [classData "oak" (some "tree"), classData "tree" (some "thing")] ∧
      (run receive ⟨["thing"], ∅, []⟩ [classData "oak" (some "tree")]).CallEnds
        (classData "tree" (some "thing")) := by
  have only : ∀ id child,
      (run receive ⟨["thing"], ∅, []⟩ [classData "oak" (some "tree")]).Waits id child →
        id = "tree" ∧ child = "oak" := by
    rintro id child ⟨listed, -⟩
    have waiting := pending_wait ⟨["thing"], ∅, []⟩ (classData "oak" (some "tree"))
      (by decide : "oak" ≠ "tree") id
    change child ∈ (TypeResolver.pending (TypeResolver.wait _ _ _ _) id).childTypes at listed
    rw [waiting] at listed
    by_cases isTree : id = "tree"
    · rw [if_pos isTree] at listed
      exact ⟨isTree, by simpa [pending] using listed⟩
    · rw [if_neg isTree] at listed
      split at listed
      · simp [pending] at listed
      · simp [pending] at listed
  have noCycles : Admissible receive NoCycle ⟨["thing"], ∅, []⟩
      [classData "oak" (some "tree"), classData "tree" (some "thing")] := by
    refine ⟨?_, ?_, trivial⟩
    · intro id _ isKnown
      exact absurd (isKnown "tree" rfl) (by decide)
    · intro id _ _ other _ cycle
      rcases Relation.TransGen.head'_iff.mp cycle with ⟨next, first, -⟩
      rcases Relation.TransGen.tail'_iff.mp cycle with ⟨before, -, last⟩
      exact absurd ((only _ _ first).1.symm.trans (only _ _ last).2) (by decide)
  exact ⟨noCycles, run_callEnds ["thing"] _ noCycles 1 _ rfl⟩

end TypeResolver

end Cyphesis.Ai
