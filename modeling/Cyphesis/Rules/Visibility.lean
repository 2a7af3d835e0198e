import Cyphesis.Rules.LocatedEntity
import Mathlib.Data.List.Chain

/-!
# Who can see whom

An entity may carry a domain, which decides what an observer sees of the entities directly below.
-/

namespace Cyphesis.Rules

open Cyphesis.Foundation List Option

universe u

/-- `Domain::isEntityVisibleFor` -/
abbrev Verdict (ι : Type u) : Type u :=
  ι → ι → Bool

/-- A forest with flags and domains. -/
structure Scene (ι : Type u) where
  parent : ι → Option ι
  flags : ι → Flags
  /-- `getDomain` -/
  domain : ι → Option (Verdict ι)
  depth : ι → Nat
  depth_parent : ∀ entity above, parent entity = some above → depth above < depth entity

namespace Scene

variable {ι : Type u} [DecidableEq ι] (scene : Scene ι)

def hasFlags (entity : ι) (mask : BitVec 32) : Bool :=
  (scene.flags entity).hasFlags mask

/-- The entities above an entity, nearest first. -/
def ancestorsWithin : Nat → ι → List ι
  | 0, _ => []
  | steps + 1, entity =>
    match scene.parent entity with
    | none => []
    | some above => above :: ancestorsWithin steps above

/-- Where `m_parent` leads. -/
def ancestors (entity : ι) : List ι :=
  scene.ancestorsWithin (scene.depth entity) entity

/-- The nearest domain, and the top below. -/
def findObserverDomain (target : ι) : ι → List ι → Option (Option (Verdict ι) × ι)
  | topObserverEntity, [] => some (none, topObserverEntity)
  | topObserverEntity, domainEntity :: above =>
    if domainEntity = target then none
    else
      match scene.domain domainEntity with
      | some observerParentDomain => some (some observerParentDomain, topObserverEntity)
      | none => findObserverDomain target domainEntity above

/-- Up to a domain, and down again. -/
def climbFromTarget (observer : ι) (observerParentDomain : Option (Verdict ι))
    (topObserverEntity : ι) : List ι → ι → List ι → Option (Option (Verdict ι) × List ι)
  | toAncestors, ancestorEntity, above =>
    if ancestorEntity = observer then
      some (scene.domain observer, ancestorEntity :: toAncestors)
    else if some ancestorEntity = scene.parent observer then
      some (observerParentDomain, ancestorEntity :: toAncestors)
    else if ancestorEntity = topObserverEntity then
      some (none, ancestorEntity :: toAncestors)
    else
      match above with
      | [] => none
      | next :: above =>
        climbFromTarget observer observerParentDomain topObserverEntity
          (ancestorEntity :: toAncestors) next above

/-- Not refused by the domain or hidden by flags. -/
def passes (observer : ι) (ancestorDomain : Option (Verdict ι)) (ancestor : ι) : Bool :=
  if ancestorDomain.any fun isEntityVisibleFor => !isEntityVisibleFor observer ancestor then false
  else if scene.hasFlags ancestor entityVisibilityPrivate &&
      !scene.hasFlags observer entityAdmin then
    false
  else if scene.hasFlags ancestor entityVisibilityProtected &&
      decide (some observer ≠ scene.parent ancestor) && !scene.hasFlags observer entityAdmin then
    false
  else true

/-- The third loop: back down to the target. -/
def walkDown (observer : ι) : Option (Verdict ι) → List ι → Bool
  | _, [] => true
  | ancestorDomain, ancestor :: toAncestors =>
    scene.passes observer ancestorDomain ancestor &&
      walkDown observer (scene.domain ancestor) toAncestors

/-- General path of `isVisibleForOtherEntity`. -/
def generalWalk (target observer : ι) : Bool :=
  match scene.findObserverDomain target observer (scene.ancestors observer) with
  | none => true
  | some (observerParentDomain, topObserverEntity) =>
    match scene.climbFromTarget observer observerParentDomain topObserverEntity [] target
        (scene.ancestors target) with
    | none => false
    | some (ancestorDomain, toAncestors) => scene.walkDown observer ancestorDomain toAncestors

/-- What is used for two direct children of one domain entity. -/
def shortcut (target observer : ι) (isEntityVisibleFor : Verdict ι) : Bool :=
  if !scene.hasFlags observer entityAdmin &&
      (scene.hasFlags target entityVisibilityProtected ||
        scene.hasFlags target entityVisibilityPrivate) then
    false
  else isEntityVisibleFor observer target

/-- Domain of a shared parent. -/
def sharedDomain (target observer : ι) : Option (Verdict ι) :=
  match scene.parent target with
  | none => none
  | some above => if scene.parent observer = some above then scene.domain above else none

/-- `LocatedEntity::isVisibleForOtherEntity`, with its shortcut for siblings in a domain. -/
def isVisibleForOtherEntity (target observer : ι) : Bool :=
  if observer = target then true
  else
    match scene.sharedDomain target observer with
    | some isEntityVisibleFor => scene.shortcut target observer isEntityVisibleFor
    | none => scene.generalWalk target observer

/-- Not hidden from the observer by its flags. -/
def Unflagged (observer entity : ι) : Prop :=
  scene.hasFlags observer entityAdmin = true ∨
    (scene.hasFlags entity entityVisibilityPrivate = false ∧
      (scene.hasFlags entity entityVisibilityProtected = true →
        scene.parent entity = some observer))

/-- The domain, if any, shows the entity. -/
def Allows (domain : Option (Verdict ι)) (observer entity : ι) : Prop :=
  ∀ isEntityVisibleFor, domain = some isEntityVisibleFor → isEntityVisibleFor observer entity = true

/-- The domain shows what flags do not hide. -/
def Shown (observer entity : ι) : Prop :=
  (∀ above, scene.parent entity = some above → Allows (scene.domain above) observer entity) ∧
  scene.Unflagged observer entity

/-- An entity and the entities above it. -/
def lineage (entity : ι) : List ι :=
  entity :: scene.ancestors entity

/-- Down to the target, from below. -/
def pathBelow (entity target : ι) : List ι :=
  (scene.lineage target).takeWhile fun other => other ≠ entity

/-- The nearest domain above it. -/
def domainEntity (observer : ι) : Option ι :=
  (scene.ancestors observer).find? fun entity => (scene.domain entity).isSome

section Lineage

omit [DecidableEq ι]

theorem ancestorsWithin_eq {steps others : Nat} {entity : ι} (enough : scene.depth entity ≤ steps)
    (also : scene.depth entity ≤ others) :
    scene.ancestorsWithin steps entity = scene.ancestorsWithin others entity := by
  induction steps generalizing others entity with
  | zero =>
    cases isParent : scene.parent entity with
    | none => cases others <;> simp [ancestorsWithin, isParent]
    | some above =>
      have deeper := scene.depth_parent entity above isParent
      omega
  | succ steps ih =>
    cases isParent : scene.parent entity with
    | none => cases others <;> simp [ancestorsWithin, isParent]
    | some above =>
      have deeper := scene.depth_parent entity above isParent
      cases others with
      | zero => omega
      | succ others =>
        have stepsLeft : scene.depth above ≤ steps := by omega
        have othersLeft : scene.depth above ≤ others := by omega
        simp only [ancestorsWithin, isParent]
        rw [ih stepsLeft othersLeft]

theorem ancestors_of_root {entity : ι} (isRoot : scene.parent entity = none) :
    scene.ancestors entity = [] := by
  unfold ancestors
  cases scene.depth entity <;> simp [ancestorsWithin, isRoot]

theorem ancestors_of_parent {entity above : ι} (isParent : scene.parent entity = some above) :
    scene.ancestors entity = scene.lineage above := by
  have deeper := scene.depth_parent entity above isParent
  unfold lineage ancestors
  cases depth : scene.depth entity with
  | zero => omega
  | succ steps =>
    simp only [ancestorsWithin, isParent]
    rw [scene.ancestorsWithin_eq (by omega) (le_refl (scene.depth above))]

theorem lineage_induction {motive : ι → Prop}
    (root : ∀ entity, scene.parent entity = none → motive entity)
    (child : ∀ entity above, scene.parent entity = some above → motive above → motive entity)
    (entity : ι) : motive entity := by
  induction depth : scene.depth entity using Nat.strong_induction_on generalizing entity with
  | _ steps ih =>
    cases isParent : scene.parent entity with
    | none => exact root entity isParent
    | some above =>
      have deeper := scene.depth_parent entity above isParent
      exact child entity above isParent (ih _ (depth ▸ deeper) above rfl)

variable (entity : ι)

theorem mem_lineage_self : entity ∈ scene.lineage entity :=
  mem_cons_self

theorem depth_lt_of_mem_ancestors {entity other : ι} (isAbove : other ∈ scene.ancestors entity) :
    scene.depth other < scene.depth entity := by
  induction entity using scene.lineage_induction with
  | root entity isRoot => simp [scene.ancestors_of_root isRoot] at isAbove
  | child entity above isParent ih =>
    have deeper := scene.depth_parent entity above isParent
    rw [scene.ancestors_of_parent isParent] at isAbove
    rcases List.mem_cons.mp isAbove with rfl | higher
    · exact deeper
    · exact (ih higher).trans deeper

theorem not_mem_ancestors_self : entity ∉ scene.ancestors entity :=
  fun isAbove => lt_irrefl _ (scene.depth_lt_of_mem_ancestors isAbove)

theorem depth_le_of_mem_lineage {entity other : ι} (isAbove : other ∈ scene.lineage entity) :
    scene.depth other ≤ scene.depth entity := by
  rcases List.mem_cons.mp isAbove with rfl | higher
  · exact le_refl _
  · exact le_of_lt (scene.depth_lt_of_mem_ancestors higher)

theorem lineage_suffix {entity other : ι} (isAbove : other ∈ scene.lineage entity) :
    ∃ below, scene.lineage entity = below ++ scene.lineage other := by
  induction entity using scene.lineage_induction with
  | root entity isRoot =>
    rw [lineage, scene.ancestors_of_root isRoot, mem_singleton] at isAbove
    exact ⟨[], by rw [isAbove, nil_append]⟩
  | child entity above isParent ih =>
    rcases List.mem_cons.mp isAbove with rfl | higher
    · exact ⟨[], rfl⟩
    · rw [scene.ancestors_of_parent isParent] at higher
      obtain ⟨below, eq⟩ := ih higher
      exact ⟨entity :: below, by rw [lineage, scene.ancestors_of_parent isParent, eq]; rfl⟩

theorem lineage_trans {entity middle other : ι} (first : middle ∈ scene.lineage entity)
    (second : other ∈ scene.lineage middle) : other ∈ scene.lineage entity := by
  obtain ⟨below, eq⟩ := scene.lineage_suffix first
  rw [eq]
  exact mem_append_right below second

theorem mem_ancestors_of_mem_lineage {entity middle other : ι}
    (first : middle ∈ scene.lineage entity)
    (second : other ∈ scene.ancestors middle) : other ∈ scene.ancestors entity := by
  have inLineage := scene.lineage_trans first (mem_cons_of_mem middle second)
  rcases List.mem_cons.mp inLineage with rfl | inAncestors
  · have lower := scene.depth_le_of_mem_lineage first
    have higher := scene.depth_lt_of_mem_ancestors second
    omega
  · exact inAncestors

theorem lineage_nodup : (scene.lineage entity).Nodup := by
  induction entity using scene.lineage_induction with
  | root entity isRoot => simp [lineage, scene.ancestors_of_root isRoot]
  | child entity above isParent ih =>
    refine List.nodup_cons.mpr ⟨scene.not_mem_ancestors_self entity, ?_⟩
    rw [scene.ancestors_of_parent isParent]
    exact ih

theorem lineage_isChain :
    (scene.lineage entity).IsChain fun child above => scene.parent child = some above := by
  induction entity using scene.lineage_induction with
  | root entity isRoot =>
    rw [lineage, scene.ancestors_of_root isRoot]
    exact List.IsChain.singleton entity
  | child entity above isParent ih =>
    rw [lineage, scene.ancestors_of_parent isParent, lineage]
    exact List.isChain_cons_cons.mpr ⟨isParent, ih⟩

theorem lineage_total {entity first second : ι} (isFirst : first ∈ scene.lineage entity)
    (isSecond : second ∈ scene.lineage entity) :
    second ∈ scene.lineage first ∨ first ∈ scene.lineage second := by
  induction entity using scene.lineage_induction with
  | root entity isRoot =>
    rw [lineage, scene.ancestors_of_root isRoot, mem_singleton] at isFirst isSecond
    exact Or.inl (isFirst ▸ isSecond ▸ scene.mem_lineage_self entity)
  | child entity above isParent ih =>
    rcases List.mem_cons.mp isFirst with rfl | firstAbove
    · exact Or.inl isSecond
    · rcases List.mem_cons.mp isSecond with rfl | secondAbove
      · exact Or.inr isFirst
      · rw [scene.ancestors_of_parent isParent] at firstAbove secondAbove
        exact ih firstAbove secondAbove

theorem not_mem_ancestors_of_parent {first second above : ι}
    (isParent : scene.parent first = some above) (also : scene.parent second = some above) :
    first ∉ scene.ancestors second := by
  intro isAbove
  have lower := scene.depth_parent first above isParent
  rw [scene.ancestors_of_parent also] at isAbove
  have higher := scene.depth_le_of_mem_lineage isAbove
  omega

end Lineage

theorem pathBelow_of_split {entity target : ι} {below above : List ι}
    (split : scene.lineage target = below ++ entity :: above) :
    scene.pathBelow entity target = below := by
  have nodup := scene.lineage_nodup target
  rw [split] at nodup
  have different : ∀ other ∈ below, decide (other ≠ entity) = true := by
    intro other isBelow
    exact decide_eq_true ((List.nodup_append.mp nodup).2.2 other isBelow entity mem_cons_self)
  rw [pathBelow, split, takeWhile_append_of_pos different,
    takeWhile_cons_of_neg (by simp), append_nil]

theorem lineage_eq_pathBelow_append {entity target : ι} (isAbove : entity ∈ scene.lineage target) :
    scene.lineage target = scene.pathBelow entity target ++ scene.lineage entity := by
  obtain ⟨below, split⟩ := scene.lineage_suffix isAbove
  rw [scene.pathBelow_of_split split, split]

theorem mem_pathBelow_iff {entity target other : ι} (isAbove : entity ∈ scene.lineage target) :
    other ∈ scene.pathBelow entity target ↔
      other ∈ scene.lineage target ∧ other ∉ scene.lineage entity := by
  have split := scene.lineage_eq_pathBelow_append isAbove
  have nodup := scene.lineage_nodup target
  rw [split] at nodup
  rw [split, mem_append]
  constructor
  · intro isBelow
    exact ⟨Or.inl isBelow, fun also => (List.nodup_append.mp nodup).2.2 _ isBelow _ also rfl⟩
  · rintro ⟨isBelow | also, apart⟩
    · exact isBelow
    · exact absurd also apart

theorem mem_pathBelow_split {entity middle target other : ι}
    (isMiddle : middle ∈ scene.lineage target) (isAbove : entity ∈ scene.lineage middle) :
    other ∈ scene.pathBelow entity target ↔
      other ∈ scene.pathBelow middle target ∨ other ∈ scene.pathBelow entity middle := by
  rw [scene.mem_pathBelow_iff (scene.lineage_trans isMiddle isAbove),
    scene.mem_pathBelow_iff isMiddle, scene.mem_pathBelow_iff isAbove]
  constructor
  · rintro ⟨isBelow, apart⟩
    by_cases above : other ∈ scene.lineage middle
    · exact Or.inr ⟨above, apart⟩
    · exact Or.inl ⟨isBelow, above⟩
  · rintro (⟨isBelow, apart⟩ | ⟨isBelow, apart⟩)
    · exact ⟨isBelow, fun also => apart (scene.lineage_trans isAbove also)⟩
    · exact ⟨scene.lineage_trans isMiddle isBelow, apart⟩

variable (domain : Option (Verdict ι))

theorem passes_iff {observer entity : ι} :
    scene.passes observer domain entity = true ↔
      Allows domain observer entity ∧ scene.Unflagged observer entity := by
  have sameParent : some observer = scene.parent entity ↔ scene.parent entity = some observer :=
    eq_comm
  unfold passes Unflagged Allows
  cases domain <;>
    cases scene.hasFlags observer entityAdmin <;>
    cases scene.hasFlags entity entityVisibilityPrivate <;>
    cases scene.hasFlags entity entityVisibilityProtected <;>
    simp [sameParent]

theorem passes_iff_shown {observer above entity : ι} (isParent : scene.parent entity = some above) :
    scene.passes observer (scene.domain above) entity = true ↔ scene.Shown observer entity := by
  rw [scene.passes_iff, Shown, isParent]
  simp only [Option.some.injEq, forall_eq']

theorem walkDown_iff {observer first : ι} {below : List ι}
    (chain : (first :: below).IsChain fun above child => scene.parent child = some above) :
    scene.walkDown observer domain (first :: below) = true ↔
      scene.passes observer domain first = true ∧
        ∀ entity ∈ below, scene.Shown observer entity := by
  induction below generalizing first domain with
  | nil => simp [walkDown]
  | cons child below ih =>
    obtain ⟨isParent, rest⟩ := List.isChain_cons_cons.mp chain
    rw [walkDown, Bool.and_eq_true, ih (scene.domain first) rest, scene.passes_iff_shown isParent,
      forall_mem_cons]

theorem walkDown_path_iff {observer entity target : ι}
    (isAbove : entity ∈ scene.lineage target) :
    scene.walkDown observer domain (entity :: (scene.pathBelow entity target).reverse) = true ↔
      scene.passes observer domain entity = true ∧
        ∀ other ∈ scene.pathBelow entity target, scene.Shown observer other := by
  have chain := scene.lineage_isChain target
  rw [scene.lineage_eq_pathBelow_append isAbove] at chain
  have front := (List.isChain_split.mp chain).1
  have down := List.isChain_reverse.mpr front
  rw [reverse_append, reverse_singleton, singleton_append] at down
  rw [scene.walkDown_iff domain down]
  simp only [mem_reverse]

/-- Does the climb from the target stop there? -/
def IsAnchor (observer topObserverEntity entity : ι) : Prop :=
  entity = observer ∨ some entity = scene.parent observer ∨ entity = topObserverEntity

/-- Domain to begin with at an anchor. -/
def anchorDomain (observer : ι) (observerParentDomain : Option (Verdict ι)) (anchor : ι) :
    Option (Verdict ι) :=
  if anchor = observer then scene.domain observer
  else if some anchor = scene.parent observer then observerParentDomain
  else none

theorem climbFromTarget_anchor {observer top anchor : ι}
    (isAnchor : scene.IsAnchor observer top anchor) {below above : List ι} {first : ι}
    {rest : List ι}
    (split : first :: rest = below ++ anchor :: above)
    (others : ∀ entity ∈ below, ¬ scene.IsAnchor observer top entity) (path : List ι) :
    scene.climbFromTarget observer domain top path first rest =
      some (scene.anchorDomain observer domain anchor, anchor :: (below.reverse ++ path)) := by
  induction below generalizing first rest path with
  | nil =>
    obtain ⟨rfl, rfl⟩ := List.cons.inj split
    unfold climbFromTarget anchorDomain
    unfold IsAnchor at isAnchor
    split_ifs <;> simp_all
  | cons head below ih =>
    obtain ⟨rfl, restEq⟩ := List.cons.inj split
    have plain := others first mem_cons_self
    simp only [IsAnchor, not_or] at plain
    cases rest with
    | nil => simp at restEq
    | cons next rest =>
      unfold climbFromTarget
      simp only [plain.1, plain.2.1, plain.2.2, if_false]
      rw [ih restEq (fun entity isBelow => others entity (mem_cons_of_mem _ isBelow))]
      simp

theorem findObserverDomain_eq {target domainEntity : ι} {between above : List ι}
    {verdict : Verdict ι} (plain : ∀ entity ∈ between, scene.domain entity = none)
    (hasDomain : scene.domain domainEntity = some verdict) (notDomain : domainEntity ≠ target)
    (top : ι) :
    scene.findObserverDomain target top (between ++ domainEntity :: above) =
      if target ∈ between then none
      else some (some verdict, between.getLast?.getD top) := by
  induction between generalizing top with
  | nil => simp [findObserverDomain, hasDomain, notDomain]
  | cons entity between ih =>
    have rest := ih (fun other isBetween => plain other (mem_cons_of_mem _ isBetween)) entity
    rw [cons_append, findObserverDomain, plain entity mem_cons_self, rest]
    by_cases meets : entity = target
    · simp [meets]
    · have apart : target ≠ entity := Ne.symm meets
      simp only [meets, if_false, mem_cons, apart, false_or, getLast?_cons, getD_some]

theorem domainEntity_split {observer entity : ι}
    (nearest : scene.domainEntity observer = some entity) :
    ∃ verdict between, scene.domain entity = some verdict ∧
      scene.pathBelow entity observer = observer :: between ∧
      scene.ancestors observer = between ++ scene.lineage entity ∧
      ∀ other ∈ between, scene.domain other = none := by
  obtain ⟨isSome, between, above, eq, plain⟩ := List.find?_eq_some_iff_append.mp nearest
  obtain ⟨verdict, hasDomain⟩ := Option.isSome_iff_exists.mp isSome
  have whole : scene.lineage observer = (observer :: between) ++ entity :: above := by
    rw [lineage, eq, cons_append]
  have path := scene.pathBelow_of_split whole
  have isAbove : entity ∈ scene.lineage observer := by simp [whole]
  have split := scene.lineage_eq_pathBelow_append isAbove
  rw [path, cons_append] at split
  refine ⟨verdict, between, hasDomain, path, (List.cons.inj split).2, ?_⟩
  intro other isBetween
  simpa using plain other isBetween

/-- Topmost below its domain. -/
def topBelow (domainEntity observer : ι) : ι :=
  (scene.pathBelow domainEntity observer).getLast?.getD observer

section Top

variable {domainEntity observer : ι} (nearest : scene.domainEntity observer = some domainEntity)

include nearest

theorem domainEntity_mem_lineage : domainEntity ∈ scene.lineage observer := by
  obtain ⟨verdict, between, -, -, ancestors, -⟩ := scene.domainEntity_split nearest
  rw [lineage, ancestors]
  exact mem_cons_of_mem _ (mem_append_right _ (scene.mem_lineage_self _))

theorem topBelow_getLast :
    (scene.pathBelow domainEntity observer).getLast? =
      some (scene.topBelow domainEntity observer) := by
  obtain ⟨verdict, between, -, path, -, -⟩ := scene.domainEntity_split nearest
  rw [topBelow, path, getLast?_cons, getD_some]

theorem topBelow_mem :
    scene.topBelow domainEntity observer ∈ scene.pathBelow domainEntity observer :=
  mem_of_getLast? (scene.topBelow_getLast nearest)

theorem parent_topBelow : scene.parent
    (scene.topBelow domainEntity observer) = some domainEntity := by
  have chain := scene.lineage_isChain observer
  rw [scene.lineage_eq_pathBelow_append (scene.domainEntity_mem_lineage nearest)] at chain
  exact (List.isChain_append.mp chain).2.2 _ (scene.topBelow_getLast nearest) _ rfl

end Top

theorem IsAnchor.mem_lineage {domainEntity observer anchor : ι}
    (nearest : scene.domainEntity observer = some domainEntity)
    (isAnchor : scene.IsAnchor observer (scene.topBelow domainEntity observer) anchor) :
    anchor ∈ scene.lineage observer := by
  rcases isAnchor with rfl | isParent | rfl
  · exact scene.mem_lineage_self _
  · rw [lineage, scene.ancestors_of_parent isParent.symm]
    exact mem_cons_of_mem _ (scene.mem_lineage_self anchor)
  · have isAbove := scene.domainEntity_mem_lineage nearest
    exact ((scene.mem_pathBelow_iff isAbove).mp (scene.topBelow_mem nearest)).1

theorem sharedDomain_eq_some_iff {target observer : ι} {verdict : Verdict ι} :
    scene.sharedDomain target observer = some verdict ↔
      ∃ above, scene.parent target = some above ∧ scene.parent observer = some above ∧
        scene.domain above = some verdict := by
  unfold sharedDomain
  cases scene.parent target with
  | none => simp
  | some above => by_cases shared : scene.parent observer = some above <;> simp [shared]

section Walk

variable {observer target domainEntity : ι}

section

variable (nearest : scene.domainEntity observer = some domainEntity)
  (under : domainEntity ∈ scene.ancestors target)

include nearest under

theorem generalWalk_of_inside (inside : target ∈ scene.ancestors observer) :
    scene.generalWalk target observer = true := by
  obtain ⟨verdict, between, hasDomain, -, ancestors, plain⟩ := scene.domainEntity_split nearest
  have notDomain : domainEntity ≠ target := by
    rintro rfl
    exact scene.not_mem_ancestors_self _ under
  have isBetween : target ∈ between := by
    rw [ancestors] at inside
    rcases List.mem_append.mp inside with isBetween | isAbove
    · exact isBetween
    · have lower := scene.depth_lt_of_mem_ancestors under
      have higher := scene.depth_le_of_mem_lineage isAbove
      omega
  rw [generalWalk, ancestors, lineage,
    scene.findObserverDomain_eq plain hasDomain notDomain observer, if_pos isBetween]

theorem generalWalk_iff {anchor : ι} (outside : target ∉ scene.lineage observer)
    (isAnchor : scene.IsAnchor observer (scene.topBelow domainEntity observer) anchor)
    (isAbove : anchor ∈ scene.lineage target)
    (isFirst : ∀ entity ∈ scene.pathBelow anchor target,
      ¬ scene.IsAnchor observer (scene.topBelow domainEntity observer) entity) :
    scene.generalWalk target observer = true ↔
      scene.passes observer
        (scene.anchorDomain observer (scene.domain domainEntity) anchor) anchor =
          true ∧
        ∀ entity ∈ scene.pathBelow anchor target, scene.Shown observer entity := by
  obtain ⟨verdict, between, hasDomain, path, ancestors, plain⟩ := scene.domainEntity_split nearest
  have notDomain : domainEntity ≠ target := by
    rintro rfl
    exact scene.not_mem_ancestors_self _ under
  have notBetween : target ∉ between := by
    intro isBetween
    rw [lineage, ancestors] at outside
    exact outside (mem_cons_of_mem _ (mem_append_left _ isBetween))
  have top : between.getLast?.getD observer = scene.topBelow domainEntity observer := by
    rw [topBelow, path, getLast?_cons, getD_some]
  have climb := scene.climbFromTarget_anchor (some verdict) isAnchor
    (scene.lineage_eq_pathBelow_append isAbove) isFirst []
  rw [generalWalk, ancestors, lineage,
    scene.findObserverDomain_eq plain hasDomain notDomain observer, if_neg notBetween]
  simp only [top, climb, append_nil]
  rw [scene.walkDown_path_iff _ isAbove, hasDomain]

end

theorem isVisibleForOtherEntity_eq_generalWalk (different : observer ≠ target)
    (notShared : ∀ above, scene.parent target = some above → scene.parent observer = some above →
      scene.domain above = none) :
    scene.isVisibleForOtherEntity target observer = scene.generalWalk target observer := by
  have noShortcut : scene.sharedDomain target observer = none := by
    rw [eq_none_iff_forall_ne_some]
    intro verdict shared
    obtain ⟨above, isParent, also, hasDomain⟩ := scene.sharedDomain_eq_some_iff.mp shared
    rw [notShared above isParent also] at hasDomain
    contradiction
  rw [isVisibleForOtherEntity, if_neg different, noShortcut]

omit [DecidableEq ι] in
theorem unflagged_iff {entity : ι} (notParent : scene.parent entity ≠ some observer) :
    scene.Unflagged observer entity ↔
      scene.hasFlags observer entityAdmin = true ∨
        (scene.hasFlags entity entityVisibilityPrivate = false ∧
          scene.hasFlags entity entityVisibilityProtected = false) := by
  simp only [Unflagged, notParent, imp_false, Bool.not_eq_true]

variable {above : ι} {verdict : Verdict ι}

theorem shortcut_iff_shown (isParent : scene.parent target = some above)
    (notObserver : above ≠ observer) (hasDomain : scene.domain above = some verdict) :
    scene.shortcut target observer verdict = true ↔ scene.Shown observer target := by
  have notParent : scene.parent target ≠ some observer := by
    rw [isParent, ne_eq, Option.some.injEq]
    exact notObserver
  rw [← scene.passes_iff_shown isParent, scene.passes_iff, hasDomain,
    scene.unflagged_iff notParent, shortcut, Allows]
  cases scene.hasFlags observer entityAdmin <;>
    cases scene.hasFlags target entityVisibilityPrivate <;>
    cases scene.hasFlags target entityVisibilityProtected <;>
    simp

theorem pathBelow_parent (isParent : scene.parent target = some above) :
    scene.pathBelow above target = [target] := by
  apply scene.pathBelow_of_split
  rw [lineage, scene.ancestors_of_parent isParent, lineage, singleton_append]

omit [DecidableEq ι] in
theorem domainEntity_of_parent
    (isParent : scene.parent observer = some above)
    (hasDomain : scene.domain above = some verdict) :
    scene.domainEntity observer = some above := by
  rw [Scene.domainEntity, scene.ancestors_of_parent isParent, lineage,
    find?_cons_of_pos (by simp [hasDomain])]

/-- A direct child begins at the domain. -/
theorem generalWalk_iff_of_parent (isParent : scene.parent observer = some domainEntity)
    (nearest : scene.domainEntity observer = some domainEntity)
    (under : domainEntity ∈ scene.ancestors target) (outside : target ∉ scene.lineage observer)
    (notInside : observer ∉ scene.lineage target) :
    scene.generalWalk target observer = true ↔
      scene.passes observer (scene.domain domainEntity) domainEntity = true ∧
        ∀ entity ∈ scene.pathBelow domainEntity target, scene.Shown observer entity := by
  have isAbove : domainEntity ∈ scene.lineage target := mem_cons_of_mem target under
  have isAnchor : scene.IsAnchor observer (scene.topBelow domainEntity observer) domainEntity :=
    Or.inr (Or.inl isParent.symm)
  have isFirst : ∀ entity ∈ scene.pathBelow domainEntity target,
      ¬ scene.IsAnchor observer (scene.topBelow domainEntity observer) entity := by
    intro entity onPath also
    obtain ⟨isBelow, apart⟩ := (scene.mem_pathBelow_iff isAbove).mp onPath
    have inLineage := also.mem_lineage scene nearest
    rw [lineage, scene.ancestors_of_parent isParent] at inLineage
    rcases List.mem_cons.mp inLineage with rfl | higher
    · exact notInside isBelow
    · exact apart higher
  have notObserver : domainEntity ≠ observer := by
    rintro rfl
    exact absurd (scene.depth_parent _ _ isParent) (lt_irrefl _)
  rw [scene.generalWalk_iff nearest under outside isAnchor isAbove isFirst, anchorDomain,
    if_neg notObserver, if_pos isParent.symm]

end Walk

end Scene

end Cyphesis.Rules
