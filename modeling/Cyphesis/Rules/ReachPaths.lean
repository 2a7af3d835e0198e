import Cyphesis.Rules.Reach
import Cyphesis.Rules.Visibility

/-!
# Reach along paths

What `canReach` answers, compared with asking every domain on the way down to the entity of the
place.
-/

namespace Cyphesis.Rules

open Cyphesis.Foundation List Option

universe u

namespace ReachScene

variable {ι : Type} {δ : Type} [DecidableEq ι] [Zero δ] [Add δ] (world : ReachScene ι δ)

/-- Forest that reaching walks. -/
def forest : Scene ι where
  parent := world.parent
  flags := world.flags
  domain entity := (world.domain entity).map fun _ _ _ => true
  depth := world.depth
  depth_parent := world.depth_parent

omit [DecidableEq ι] [Zero δ] [Add δ] in
theorem forest_ancestors (entity : ι) : world.forest.ancestors entity = world.ancestors entity := by
  have same : ∀ steps entity,
      world.forest.ancestorsWithin steps entity = world.ancestorsWithin steps entity := by
    intro steps
    induction steps with
    | zero => exact fun _ => rfl
    | succ steps ih =>
      intro entity
      have sameParent : world.forest.parent entity = world.parent entity := rfl
      rw [Scene.ancestorsWithin, ancestorsWithin, sameParent]
      cases world.parent entity with
      | none => rfl
      | some above => exact congrArg (above :: ·) (ih above)
  exact same (world.depth entity) entity

/-- The reach, and what the caller adds. -/
def reachDistance (reachingEntity : ι) (extraReach : δ) : δ :=
  (world.reach reachingEntity).getD 0 + extraReach

/-- The nearest domain above it. -/
def nearestDomain (reachingEntity : ι) : Option ι :=
  world.forest.domainEntity reachingEntity

/-- The last entity on the way up. -/
def topmost (entity : ι) : ι :=
  (world.forest.ancestors entity).getLast?.getD entity

/-- The domain above lets it reach. -/
def Lets (reachingEntity : ι) (reachDistance : δ) (pos : Option (List δ)) (entity : ι) : Prop :=
  ∀ above, world.parent entity = some above →
    ∀ isEntityReachable, world.domain above = some isEntityReachable →
      isEntityReachable reachingEntity reachDistance entity pos = true

/-- All on the way down is within reach. -/
def Clear (reachingEntity : ι) (reachDistance : δ) (pos : Option (List δ)) (entity target : ι) :
    Prop :=
  ∀ other ∈ world.forest.pathBelow entity target, world.Lets reachingEntity reachDistance pos other

/-- Inside, and reachable on the way. -/
def ByPath (reachingEntity target : ι) (reachDistance : δ) (pos : Option (List δ)) : Prop :=
  (reachingEntity ∈ world.forest.ancestors target ∧
    world.Clear reachingEntity reachDistance pos reachingEntity target) ∨
  ∃ domainEntity, world.nearestDomain reachingEntity = some domainEntity ∧
    ((target = domainEntity ∧
        ∀ isEntityReachable, world.domain target = some isEntityReachable →
          isEntityReachable reachingEntity reachDistance target pos = true) ∨
      (domainEntity ∈ world.forest.ancestors target ∧
        world.Clear reachingEntity reachDistance pos domainEntity target))

/-- There is no domain above, and the way from the topmost entity to the target is clear. -/
def ByTopmost (reachingEntity target : ι) (reachDistance : δ) (pos : Option (List δ)) : Prop :=
  world.nearestDomain reachingEntity = none ∧
    world.topmost reachingEntity ∈ world.forest.lineage target ∧
    world.Clear reachingEntity reachDistance pos (world.topmost reachingEntity) target

omit [DecidableEq ι] [Zero δ] [Add δ] in
theorem lets_iff (reachingEntity : ι) (distance : δ) (pos : Option (List δ)) (entity : ι) :
    world.lets reachingEntity distance pos entity = true ↔
      world.Lets reachingEntity distance pos entity := by
  rw [lets, Lets]
  cases world.parent entity with
  | none => simp
  | some above =>
    simp only [bind_some, Option.some.injEq, forall_eq']
    cases world.domain above <;> simp

section Loops

omit [Zero δ] [Add δ]

omit [DecidableEq ι] in
theorem findReacherDomain_of_nearest {between above : List ι} {entity : ι}
    (plain : ∀ other ∈ between, (world.domain other).isSome = false)
    (hasDomain : (world.domain entity).isSome = true) (top : ι) :
    world.findReacherDomain top (between ++ entity :: above) =
      (some entity, between.getLast?.getD top) := by
  induction between generalizing top with
  | nil => simp [findReacherDomain, hasDomain]
  | cons first between ih =>
    have rest := ih (fun other isBetween => plain other (mem_cons_of_mem _ isBetween)) first
    rw [cons_append, findReacherDomain, plain first mem_cons_self, rest]
    simp [getLast?_cons]

omit [DecidableEq ι] in
theorem findReacherDomain_of_plain {above : List ι}
    (plain : ∀ other ∈ above, (world.domain other).isSome = false) (top : ι) :
    world.findReacherDomain top above = (none, above.getLast?.getD top) := by
  induction above generalizing top with
  | nil => rfl
  | cons first above ih =>
    have rest := ih (fun other isAbove => plain other (mem_cons_of_mem _ isAbove)) first
    rw [findReacherDomain, plain first mem_cons_self, rest]
    simp [getLast?_cons]

/-- Does the climb from the target stop there? -/
def IsStop (reachingEntity : ι) (reacherDomainEntity : Option ι) (topReachingEntity entity : ι) :
    Prop :=
  some entity = reacherDomainEntity ∨ entity = reachingEntity ∨ entity = topReachingEntity

variable {reachingEntity target top : ι} {domainEntity : Option ι}

omit world in
theorem climb_append {below : List ι}
    (others : ∀ entity ∈ below, ¬ IsStop reachingEntity domainEntity top entity) {first next : ι}
    {rest above : List ι} (split : first :: rest = below ++ next :: above) (path : List ι) :
    climb reachingEntity target domainEntity top path first rest =
      climb reachingEntity target domainEntity top (below.reverse ++ path) next above := by
  induction below generalizing first rest path with
  | nil =>
    obtain ⟨rfl, rfl⟩ := List.cons.inj split
    rfl
  | cons head below ih =>
    obtain ⟨rfl, restEq⟩ := List.cons.inj split
    have passed := others first mem_cons_self
    simp only [IsStop, not_or] at passed
    cases rest with
    | nil => simp at restEq
    | cons second rest =>
      rw [climb, if_neg passed.1, if_neg passed.2.1, if_neg passed.2.2]
      rw [ih (fun entity isBelow => others entity (mem_cons_of_mem _ isBelow)) restEq]
      simp

omit world in
theorem climb_of_none {rest : List ι} {first : ι}
    (others : ∀ entity ∈ first :: rest, ¬ IsStop reachingEntity domainEntity top entity)
    (path : List ι) :
    climb reachingEntity target domainEntity top path first rest = .unrelated := by
  induction rest generalizing first path with
  | nil =>
    have passed := others first mem_cons_self
    simp only [IsStop, not_or] at passed
    rw [climb, if_neg passed.1, if_neg passed.2.1, if_neg passed.2.2]
  | cons second rest ih =>
    have passed := others first mem_cons_self
    simp only [IsStop, not_or] at passed
    rw [climb, if_neg passed.1, if_neg passed.2.1, if_neg passed.2.2]
    exact ih (fun entity isRest => others entity (mem_cons_of_mem _ isRest)) _

omit world in
theorem climb_of_stop {entity : ι} (isStop : IsStop reachingEntity domainEntity top entity)
    (path above : List ι) :
    climb reachingEntity target domainEntity top path entity above =
      if some entity = domainEntity then
        if entity = target then .containing else .found path
      else if entity = reachingEntity then .found path
      else .found (entity :: path) := by
  rw [IsStop] at isStop
  cases above <;> rw [climb] <;> split_ifs <;> simp_all

theorem findReacherDomain_nearest {entity : ι}
    (nearest : world.nearestDomain reachingEntity = some entity) :
    world.findReacherDomain reachingEntity (world.ancestors reachingEntity) =
      (some entity, world.forest.topBelow entity reachingEntity) := by
  obtain ⟨verdict, between, hasDomain, path, split, plain⟩ :=
    world.forest.domainEntity_split nearest
  have isThere : (world.domain entity).isSome = true := by
    have isSome := isSome_of_eq_some hasDomain
    simpa [forest] using isSome
  have without : ∀ other ∈ between, (world.domain other).isSome = false := by
    intro other isBetween
    have noVerdict := plain other isBetween
    simpa [forest] using noVerdict
  rw [← forest_ancestors, split, Scene.lineage, world.findReacherDomain_of_nearest without isThere,
    Scene.topBelow, path, getLast?_cons, getD_some]

omit [DecidableEq ι] in
theorem findReacherDomain_topmost (plain : world.nearestDomain reachingEntity = none) :
    world.findReacherDomain reachingEntity (world.ancestors reachingEntity) =
      (none, world.topmost reachingEntity) := by
  have without : ∀ other ∈ world.ancestors reachingEntity, (world.domain other).isSome = false := by
    intro other isAbove
    rw [← forest_ancestors] at isAbove
    have noVerdict := List.find?_eq_none.mp plain other isAbove
    simpa [forest] using noVerdict
  rw [world.findReacherDomain_of_plain without, topmost, forest_ancestors]

end Loops

section Walk

/-- What the third loop makes of a climb. -/
def verdict (reachingEntity target : ι) (reachDistance : δ) (pos : Option (List δ)) : Climb ι → Bool
  | .containing =>
    match world.domain target with
    | some isEntityReachable => isEntityReachable reachingEntity reachDistance target pos
    | none => true
  | .unrelated => false
  | .found [] => false
  | .found toAncestors => toAncestors.all (world.lets reachingEntity reachDistance pos)

theorem reaches_eq {domainEntity : Option ι} {reachingEntity target top : ι}
    {pos : Option (List δ)} {extraReach : δ}
    (found : world.findReacherDomain reachingEntity (world.ancestors reachingEntity) =
      (domainEntity, top)) :
    world.reaches reachingEntity target pos extraReach =
      world.verdict reachingEntity target (world.reachDistance reachingEntity extraReach) pos
        (climb reachingEntity target domainEntity top [] target
          (world.forest.ancestors target)) := by
  rw [reaches, found, forest_ancestors]
  rfl

omit [DecidableEq ι] [Zero δ] [Add δ] in
theorem verdict_found_iff {reachingEntity target : ι} {distance : δ} {pos : Option (List δ)}
    {path : List ι} (member : path ≠ []) :
    world.verdict reachingEntity target distance pos (.found path) = true ↔
      ∀ entity ∈ path, world.Lets reachingEntity distance pos entity := by
  cases path with
  | nil => exact absurd rfl member
  | cons first path =>
    rw [verdict]
    simp only [List.all_eq_true, lets_iff]
    simp

variable {reachingEntity target : ι} {distance : δ} {pos : Option (List δ)}

omit [Zero δ] [Add δ] in
theorem verdict_path_iff {entity : ι} (under : entity ∈ world.forest.ancestors target) :
    world.verdict reachingEntity target distance pos
        (.found (world.forest.pathBelow entity target).reverse) = true ↔
      world.Clear reachingEntity distance pos entity target := by
  have isAbove : entity ∈ world.forest.lineage target := mem_cons_of_mem _ under
  have member : (world.forest.pathBelow entity target).reverse ≠ [] := by
    intro empty
    have whole := world.forest.lineage_eq_pathBelow_append isAbove
    rw [List.reverse_eq_nil_iff.mp empty, nil_append] at whole
    have self := world.forest.mem_lineage_self target
    rw [whole] at self
    have lower := world.forest.depth_le_of_mem_lineage self
    have higher := world.forest.depth_lt_of_mem_ancestors under
    omega
  rw [world.verdict_found_iff member]
  simp only [Clear, mem_reverse]

omit [Zero δ] [Add δ] in
theorem climb_to {domainEntity : Option ι} {top entity : ι}
    (isAbove : entity ∈ world.forest.lineage target)
    (others : ∀ other ∈ world.forest.pathBelow entity target,
      ¬ IsStop reachingEntity domainEntity top other) :
    climb reachingEntity target domainEntity top [] target (world.forest.ancestors target) =
      climb reachingEntity target domainEntity top (world.forest.pathBelow entity target).reverse
        entity (world.forest.ancestors entity) := by
  have split := world.forest.lineage_eq_pathBelow_append isAbove
  rw [climb_append others split, append_nil]

omit [Zero δ] [Add δ] in
theorem verdict_of_contained {domainEntity : Option ι} {top : ι}
    (contained : reachingEntity ∈ world.forest.ancestors target)
    (domainAbove : ∀ entity, domainEntity = some entity →
      entity ∈ world.forest.ancestors reachingEntity)
    (topAbove : top ∈ world.forest.lineage reachingEntity) :
    world.verdict reachingEntity target distance pos
        (climb reachingEntity target domainEntity top [] target (world.forest.ancestors target)) =
          true ↔
      world.Clear reachingEntity distance pos reachingEntity target := by
  have isAbove : reachingEntity ∈ world.forest.lineage target := mem_cons_of_mem _ contained
  have others : ∀ other ∈ world.forest.pathBelow reachingEntity target,
      ¬ IsStop reachingEntity domainEntity top other := by
    intro other onPath isStop
    have apart := ((world.forest.mem_pathBelow_iff isAbove).mp onPath).2
    rcases isStop with isDomain | rfl | rfl
    · exact apart (mem_cons_of_mem _ (domainAbove other isDomain.symm))
    · exact apart (world.forest.mem_lineage_self _)
    · exact apart topAbove
  have notDomain : some reachingEntity ≠ domainEntity := by
    intro isDomain
    exact world.forest.not_mem_ancestors_self _ (domainAbove _ isDomain.symm)
  rw [world.climb_to isAbove others, climb_of_stop (.inr (.inl rfl)), if_neg notDomain,
    if_pos rfl, world.verdict_path_iff contained]

section Nearest

omit [Zero δ] [Add δ]

variable {domainEntity : ι} (nearest : world.nearestDomain reachingEntity = some domainEntity)

include nearest

theorem nearest_above_of_topBelow {entity : ι}
    (isTop : world.forest.topBelow domainEntity reachingEntity ∈ world.forest.lineage entity) :
    domainEntity ∈ world.forest.ancestors entity := by
  have isParent := world.forest.parent_topBelow nearest
  apply world.forest.mem_ancestors_of_mem_lineage isTop
  rw [world.forest.ancestors_of_parent isParent]
  exact world.forest.mem_lineage_self domainEntity

variable (outside : reachingEntity ∉ world.forest.lineage target)

include outside

theorem verdict_of_shared
    (isTop : world.forest.topBelow domainEntity reachingEntity ∈ world.forest.lineage target) :
    world.verdict reachingEntity target distance pos
        (climb reachingEntity target (some domainEntity)
          (world.forest.topBelow domainEntity reachingEntity) [] target
          (world.forest.ancestors target)) = true ↔
      world.Clear reachingEntity distance pos domainEntity target := by
  have isParent := world.forest.parent_topBelow nearest
  have domainAbove := world.nearest_above_of_topBelow nearest (world.forest.mem_lineage_self _)
  have inDomain : domainEntity ∈
      world.forest.lineage (world.forest.topBelow domainEntity reachingEntity) :=
    mem_cons_of_mem _ domainAbove
  have others : ∀ other ∈ world.forest.pathBelow
      (world.forest.topBelow domainEntity reachingEntity) target,
      ¬ IsStop reachingEntity (some domainEntity)
        (world.forest.topBelow domainEntity reachingEntity) other := by
    intro other onPath isStop
    obtain ⟨isBelow, apart⟩ := (world.forest.mem_pathBelow_iff isTop).mp onPath
    rcases isStop with isDomain | rfl | rfl
    · rw [Option.some.inj isDomain] at apart
      exact apart inDomain
    · exact outside isBelow
    · exact apart (world.forest.mem_lineage_self _)
  have notDomain : some (world.forest.topBelow domainEntity reachingEntity) ≠
      some domainEntity := by
    intro isDomain
    rw [Option.some.inj isDomain] at domainAbove
    exact world.forest.not_mem_ancestors_self _ domainAbove
  have notSelf : world.forest.topBelow domainEntity reachingEntity ≠ reachingEntity := by
    intro isSelf
    rw [isSelf] at isTop
    exact outside isTop
  rw [world.climb_to isTop others, climb_of_stop (.inr (.inr rfl)), if_neg notDomain,
    if_neg notSelf, world.verdict_found_iff (cons_ne_nil _ _), Clear]
  have members : ∀ other, other ∈ world.forest.pathBelow domainEntity target ↔
      other ∈ world.forest.topBelow domainEntity reachingEntity ::
        (world.forest.pathBelow (world.forest.topBelow domainEntity reachingEntity)
          target).reverse := by
    intro other
    rw [world.forest.mem_pathBelow_split isTop inDomain, world.forest.pathBelow_parent isParent,
      mem_singleton, mem_cons, mem_reverse, or_comm]
  simp only [members]

theorem verdict_of_nearest :
    world.verdict reachingEntity target distance pos
        (climb reachingEntity target (some domainEntity)
          (world.forest.topBelow domainEntity reachingEntity) [] target
          (world.forest.ancestors target)) = true ↔
      (target = domainEntity ∧ ∀ isEntityReachable, world.domain target = some isEntityReachable →
        isEntityReachable reachingEntity distance target pos = true) ∨
      (domainEntity ∈ world.forest.ancestors target ∧
        world.Clear reachingEntity distance pos domainEntity target) := by
  by_cases contains : target = domainEntity
  · subst contains
    have notUnder := world.forest.not_mem_ancestors_self target
    rw [climb_of_stop (.inl rfl), if_pos rfl, if_pos rfl, verdict]
    cases domain : world.domain target <;> simp [notUnder]
  by_cases under : domainEntity ∈ world.forest.ancestors target
  · have isAbove : domainEntity ∈ world.forest.lineage target := mem_cons_of_mem _ under
    simp only [contains, false_and, false_or, under, true_and]
    by_cases isTop : world.forest.topBelow domainEntity reachingEntity ∈ world.forest.lineage target
    · exact world.verdict_of_shared nearest outside isTop
    · have others : ∀ other ∈ world.forest.pathBelow domainEntity target,
          ¬ IsStop reachingEntity (some domainEntity)
            (world.forest.topBelow domainEntity reachingEntity) other := by
        intro other onPath isStop
        obtain ⟨isBelow, apart⟩ := (world.forest.mem_pathBelow_iff isAbove).mp onPath
        rcases isStop with isDomain | rfl | rfl
        · rw [Option.some.inj isDomain] at apart
          exact apart (world.forest.mem_lineage_self _)
        · exact outside isBelow
        · exact isTop isBelow
      rw [world.climb_to isAbove others, climb_of_stop (.inl rfl), if_pos rfl,
        if_neg (Ne.symm contains), world.verdict_path_iff under]
  · have others : ∀ other ∈ target :: world.forest.ancestors target,
        ¬ IsStop reachingEntity (some domainEntity)
          (world.forest.topBelow domainEntity reachingEntity) other := by
      intro other isAbove isStop
      rcases isStop with isDomain | rfl | rfl
      · rw [Option.some.inj isDomain] at isAbove
        rcases List.mem_cons.mp isAbove with same | higher
        · exact contains same.symm
        · exact under higher
      · exact outside isAbove
      · exact under (world.nearest_above_of_topBelow nearest isAbove)
    rw [climb_of_none others]
    simp [verdict, contains, under]

end Nearest

omit [Zero δ] [Add δ] in
theorem verdict_of_topmost {top : ι} (isTopmost : world.parent top = none)
    (outside : reachingEntity ∉ world.forest.lineage target) :
    world.verdict reachingEntity target distance pos
        (climb reachingEntity target none top [] target (world.forest.ancestors target)) = true ↔
      top ∈ world.forest.lineage target ∧ world.Clear reachingEntity distance pos top target := by
  by_cases isTop : top ∈ world.forest.lineage target
  · have others : ∀ other ∈ world.forest.pathBelow top target,
        ¬ IsStop reachingEntity none top other := by
      intro other onPath isStop
      obtain ⟨isBelow, apart⟩ := (world.forest.mem_pathBelow_iff isTop).mp onPath
      rcases isStop with isDomain | rfl | rfl
      · exact some_ne_none _ isDomain
      · exact outside isBelow
      · exact apart (world.forest.mem_lineage_self _)
    have notSelf : top ≠ reachingEntity := by
      rintro rfl
      exact outside isTop
    have letsTop : world.Lets reachingEntity distance pos top := by
      intro above isParent
      rw [isTopmost] at isParent
      contradiction
    rw [world.climb_to isTop others, climb_of_stop (.inr (.inr rfl)),
      if_neg (some_ne_none _), if_neg notSelf, world.verdict_found_iff (cons_ne_nil _ _)]
    simp only [forall_mem_cons, letsTop, isTop, true_and, Clear, mem_reverse]
  · have others : ∀ other ∈ target :: world.forest.ancestors target,
        ¬ IsStop reachingEntity none top other := by
      intro other isAbove isStop
      rcases isStop with isDomain | rfl | rfl
      · exact some_ne_none _ isDomain
      · exact outside isAbove
      · exact isTop isAbove
    rw [climb_of_none others]
    simp [verdict, isTop]

end Walk

omit [DecidableEq ι] [Zero δ] [Add δ] in
theorem parent_topmost (entity : ι) : world.parent (world.topmost entity) = none := by
  induction entity using world.forest.lineage_induction with
  | root entity isRoot =>
    rw [topmost, world.forest.ancestors_of_root isRoot]
    exact isRoot
  | child entity above isParent ih =>
    rw [topmost, world.forest.ancestors_of_parent isParent, Scene.lineage, getLast?_cons, getD_some]
    exact ih

omit [DecidableEq ι] [Zero δ] [Add δ] in
theorem topmost_mem_lineage (entity : ι) : world.topmost entity ∈ world.forest.lineage entity := by
  rw [topmost, Scene.lineage]
  cases last : (world.forest.ancestors entity).getLast? with
  | none => exact mem_cons_self
  | some other => exact mem_cons_of_mem _ (mem_of_getLast? last)

/-- What an entity reaches of another. -/
theorem reaches_iff (reachingEntity target : ι) (pos : Option (List δ)) (extraReach : δ)
    (different : reachingEntity ≠ target) :
    world.reaches reachingEntity target pos extraReach = true ↔
      world.ByPath reachingEntity target (world.reachDistance reachingEntity extraReach) pos ∨
      world.ByTopmost reachingEntity target
        (world.reachDistance reachingEntity extraReach) pos := by
  -- From an entity above the reaching entity, the way down passes the reaching entity.
  have further : ∀ entity ∈ world.forest.lineage reachingEntity,
      reachingEntity ∈ world.forest.ancestors target →
      world.Clear reachingEntity (world.reachDistance reachingEntity extraReach) pos entity target →
      world.Clear reachingEntity (world.reachDistance reachingEntity extraReach) pos
        reachingEntity target := by
    intro entity isAbove contained clear other onPath
    apply clear
    rw [world.forest.mem_pathBelow_split (mem_cons_of_mem _ contained) isAbove]
    exact Or.inl onPath
  rw [ByPath, ByTopmost]
  have outsideOf : reachingEntity ∉ world.forest.ancestors target →
      reachingEntity ∉ world.forest.lineage target := by
    intro notAbove isAbove
    rcases List.mem_cons.mp isAbove with same | higher
    · exact different same
    · exact notAbove higher
  cases nearest : world.nearestDomain reachingEntity with
  | some domainEntity =>
    have domainAbove : domainEntity ∈ world.forest.ancestors reachingEntity :=
      mem_of_find?_eq_some nearest
    rw [world.reaches_eq (world.findReacherDomain_nearest nearest)]
    simp only [Option.some.injEq, exists_eq_left', reduceCtorEq, false_and, or_false]
    by_cases contained : reachingEntity ∈ world.forest.ancestors target
    · have notTarget : target ≠ domainEntity := by
        rintro rfl
        have lower := world.forest.depth_lt_of_mem_ancestors contained
        have higher := world.forest.depth_lt_of_mem_ancestors domainAbove
        omega
      have topAbove : world.forest.topBelow domainEntity reachingEntity ∈
          world.forest.lineage reachingEntity :=
        ((world.forest.mem_pathBelow_iff (mem_cons_of_mem _ domainAbove)).mp
          (world.forest.topBelow_mem nearest)).1
      rw [world.verdict_of_contained contained (by rintro entity ⟨⟩; exact domainAbove) topAbove]
      simp only [contained, true_and, notTarget, false_and, false_or]
      constructor
      · exact Or.inl
      · rintro (clear | ⟨-, clear⟩)
        · exact clear
        · exact further domainEntity (mem_cons_of_mem _ domainAbove) contained clear
    · rw [world.verdict_of_nearest nearest (outsideOf contained)]
      simp only [contained, false_and, false_or]
  | none =>
    rw [world.reaches_eq (world.findReacherDomain_topmost nearest)]
    simp only [reduceCtorEq, false_and, exists_false, or_false, true_and]
    by_cases contained : reachingEntity ∈ world.forest.ancestors target
    · rw [world.verdict_of_contained contained (by rintro entity ⟨⟩)
        (world.topmost_mem_lineage reachingEntity)]
      simp only [contained, true_and]
      constructor
      · exact Or.inl
      · rintro (clear | ⟨-, clear⟩)
        · exact clear
        · exact further _ (world.topmost_mem_lineage reachingEntity) contained clear
    · rw [world.verdict_of_topmost (world.parent_topmost reachingEntity) (outsideOf contained)]
      simp only [contained, false_and, false_or]

/-- An entity reaches itself, and what every domain on the path to it lets it reach. -/
theorem canReach_iff_path {reachingEntity : ι}
    (plain : world.hasFlags reachingEntity entityAdmin = false)
    (alive : world.hasFlags reachingEntity entityDestroyed = false) (target : ι)
    (pos : Option (List δ)) (extraReach : δ) :
    world.canReach reachingEntity (some target) pos extraReach = .ok true ↔
      target = reachingEntity ∨ (world.hasFlags target entityDestroyed = false ∧
        (world.ByPath reachingEntity target (world.reachDistance reachingEntity extraReach) pos ∨
          world.ByTopmost reachingEntity target (world.reachDistance reachingEntity extraReach)
            pos)) := by
  by_cases same : reachingEntity = target
  · simp [canReach, same]
  · rw [← world.reaches_iff reachingEntity target pos extraReach same]
    have notSame : ¬ target = reachingEntity := fun isSame => same isSame.symm
    rw [canReach, if_neg (fun isSame => same (Option.some.inj isSame)), plain, alive]
    simp only [Bool.false_eq_true, if_false, deref, bind, Except.bind, notSame, false_or]
    cases world.hasFlags target entityDestroyed with
    | true => simp [pure, Except.pure]
    | false => simp [pure, Except.pure]

/-- A crate with a mouse inside. -/
def crate : ReachScene Nat Int where
  parent entity := if entity = 1 then some 0 else none
  flags _ := Flags.empty
  reach _ := none
  domain _ := none
  depth := id
  depth_parent := by
    intro entity above isParent
    split at isParent <;> simp_all

/-- The crate is below no domain. -/
theorem crate_reached :
    crate.hasFlags 1 entityAdmin = false ∧ crate.hasFlags 1 entityDestroyed = false ∧
      ¬ (crate.canReach 1 (some 0) none 0 = .ok true ↔
        0 = 1 ∨ crate.ByPath 1 0 (crate.reachDistance 1 0) none) := by
  have answer : crate.canReach 1 (some 0) none 0 = .ok true := by decide +kernel
  have noDomain : crate.nearestDomain 1 = none := by decide +kernel
  have notBelow : 1 ∉ crate.forest.ancestors 0 := by decide +kernel
  refine ⟨by decide +kernel, by decide +kernel, ?_⟩
  simp [answer, ByPath, noDomain, notBelow]

/-- A room with short reaches, a table and a cat. -/
def room : ReachScene Nat Int where
  parent entity :=
    if entity = 1 ∨ entity = 2 then some 0 else if entity = 3 then some 1 else none
  flags _ := Flags.empty
  reach entity := if entity = 2 then some 2 else none
  domain entity :=
    if entity = 0 then some fun _ reach below _ => decide ((below : Int) ≤ reach) else none
  depth := id
  depth_parent := by
    intro entity above isParent
    split at isParent
    · simp_all only [Option.some.injEq, id_eq]
      omega
    · simp_all
      omega

/-- On the table, if that is reached. -/
theorem room_reached :
    room.canReach 2 (some 3) none 0 = .ok true ↔
      3 = 2 ∨ (room.hasFlags 3 entityDestroyed = false ∧
        (room.ByPath 2 3 (room.reachDistance 2 0) none ∨
          room.ByTopmost 2 3 (room.reachDistance 2 0) none)) :=
  room.canReach_iff_path (by decide +kernel) (by decide +kernel) 3 none 0

end ReachScene

end Cyphesis.Rules
