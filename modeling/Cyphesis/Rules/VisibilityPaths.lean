import Cyphesis.Rules.Visibility

/-!
# Visibility along paths

What `isVisibleForOtherEntity` answers, compared with asking every domain on the way down.
-/

namespace Cyphesis.Rules

open Cyphesis.Foundation List

universe u

/-- `ContainerDomain::isEntityVisibleFor`. -/
def containerVerdict {ι : Type u} [DecidableEq ι] (flags : ι → Flags) (owner : ι)
    (hasObserverRegistered : ι → Bool) : Verdict ι := fun observing observed =>
  if observing = owner then true
  else if (flags observing).hasFlags entityAdmin then true
  else if (flags observed).hasFlags entityContainedVisible then true
  else hasObserverRegistered observing

namespace Scene

variable {ι : Type u} [DecidableEq ι] (scene : Scene ι)

section Path

variable {observer target domainEntity : ι}

section

variable (nearest : scene.domainEntity observer = some domainEntity)

include nearest

theorem isVisibleForOtherEntity_of_inside
    (under : domainEntity ∈ scene.ancestors target) (inside : target ∈ scene.lineage observer) :
    scene.isVisibleForOtherEntity target observer = true := by
  rcases List.mem_cons.mp inside with rfl | isAbove
  · simp [isVisibleForOtherEntity]
  · have different : observer ≠ target := by
      rintro rfl
      exact scene.not_mem_ancestors_self _ isAbove
    rw [scene.isVisibleForOtherEntity_eq_generalWalk different]
    · exact scene.generalWalk_of_inside nearest under isAbove
    · intro above isParent also
      exact absurd isAbove (scene.not_mem_ancestors_of_parent isParent also)

theorem isVisibleForOtherEntity_iff_of_contained
    (contained : observer ∈ scene.ancestors target) :
    scene.isVisibleForOtherEntity target observer = true ↔
      scene.passes observer (scene.domain observer) observer = true ∧
        ∀ entity ∈ scene.pathBelow observer target, scene.Shown observer entity := by
  have isAbove : observer ∈ scene.lineage target := mem_cons_of_mem target contained
  have under : domainEntity ∈ scene.ancestors target := by
    obtain ⟨verdict, between, -, -, ancestors, -⟩ := scene.domainEntity_split nearest
    apply scene.mem_ancestors_of_mem_lineage isAbove
    rw [ancestors]
    exact mem_append_right between (scene.mem_lineage_self domainEntity)
  have different : observer ≠ target := by
    rintro rfl
    exact scene.not_mem_ancestors_self _ contained
  have outside : target ∉ scene.lineage observer := by
    intro inside
    have lower := scene.depth_lt_of_mem_ancestors contained
    have higher := scene.depth_le_of_mem_lineage inside
    omega
  have isFirst : ∀ entity ∈ scene.pathBelow observer target,
      ¬ scene.IsAnchor observer (scene.topBelow domainEntity observer) entity := by
    intro entity onPath isAnchor
    exact ((scene.mem_pathBelow_iff isAbove).mp onPath).2 (isAnchor.mem_lineage scene nearest)
  rw [scene.isVisibleForOtherEntity_eq_generalWalk different,
    scene.generalWalk_iff nearest under outside (Or.inl rfl) isAbove isFirst, anchorDomain,
    if_pos rfl]
  intro above isParent also
  exact absurd contained (scene.not_mem_ancestors_of_parent also isParent)

end

/-- A direct child sees along the path. -/
theorem isVisibleForOtherEntity_iff_of_parent
    (isParent : scene.parent observer = some domainEntity)
    (nearest : scene.domainEntity observer = some domainEntity)
    (under : domainEntity ∈ scene.ancestors target) (outside : target ∉ scene.lineage observer)
    (notInside : observer ∉ scene.lineage target)
    (open_ : scene.parent target ≠ some domainEntity →
      scene.passes observer (scene.domain domainEntity) domainEntity = true) :
    scene.isVisibleForOtherEntity target observer = true ↔
      ∀ entity ∈ scene.pathBelow domainEntity target, scene.Shown observer entity := by
  have different : observer ≠ target := by
    rintro rfl
    exact outside (scene.mem_lineage_self _)
  by_cases direct : scene.parent target = some domainEntity
  · obtain ⟨verdict, between, hasDomain, -, -, -⟩ := scene.domainEntity_split nearest
    have shared : scene.sharedDomain target observer = some verdict :=
      scene.sharedDomain_eq_some_iff.mpr ⟨domainEntity, direct, isParent, hasDomain⟩
    have notObserver : domainEntity ≠ observer := by
      rintro rfl
      exact absurd (scene.depth_parent _ _ isParent) (lt_irrefl _)
    rw [isVisibleForOtherEntity, if_neg different, shared, scene.pathBelow_parent direct,
      forall_mem_singleton]
    exact scene.shortcut_iff_shown direct notObserver hasDomain
  · rw [scene.isVisibleForOtherEntity_eq_generalWalk different,
      scene.generalWalk_iff_of_parent isParent nearest under outside notInside]
    · simp only [open_ direct, true_and]
    · intro above isTargetParent also
      rw [isParent, Option.some.injEq] at also
      exact absurd (also ▸ isTargetParent) direct

section Deeper

variable {above : ι} (isParent : scene.parent observer = some above)
  (nearest : scene.domainEntity observer = some domainEntity) (plain : above ≠ domainEntity)

include isParent nearest plain

theorem parent_below_domainEntity :
    scene.domain above = none ∧ above ∈ scene.pathBelow domainEntity observer ∧
      scene.topBelow domainEntity observer ∈ scene.pathBelow domainEntity above ∧
      domainEntity ∈ scene.ancestors above := by
  obtain ⟨verdict, between, -, path, ancestors, withoutDomain⟩ := scene.domainEntity_split nearest
  rw [scene.ancestors_of_parent isParent, lineage] at ancestors
  cases between with
  | nil => exact absurd (List.cons.inj ancestors).1 plain
  | cons head between =>
    obtain ⟨rfl, rest⟩ := List.cons.inj ancestors
    have whole : scene.lineage above = (above :: between) ++ scene.lineage domainEntity := by
      rw [lineage, rest]
      rfl
    have abovePath := scene.pathBelow_of_split whole
    refine ⟨withoutDomain above mem_cons_self, ?_, ?_, ?_⟩
    · rw [path]
      exact mem_cons_of_mem _ mem_cons_self
    · rw [topBelow, path, abovePath, getLast?_cons_cons,
        getLast?_eq_some_getLast (cons_ne_nil above between), Option.getD_some]
      exact getLast_mem (cons_ne_nil above between)
    · rw [rest]
      exact mem_append_right between (scene.mem_lineage_self domainEntity)

theorem topBelow_mem_lineage_of_shared {shared : ι}
    (isShared : shared ∈ scene.pathBelow domainEntity above)
    (isBelow : shared ∈ scene.lineage target) :
    scene.topBelow domainEntity observer ∈ scene.lineage target := by
  obtain ⟨-, -, isTop, domainAbove⟩ := scene.parent_below_domainEntity isParent nearest plain
  have inAbove : domainEntity ∈ scene.lineage above := mem_cons_of_mem above domainAbove
  obtain ⟨sharedAbove, sharedBelow⟩ := (scene.mem_pathBelow_iff inAbove).mp isShared
  obtain ⟨topAbove, -⟩ := (scene.mem_pathBelow_iff inAbove).mp isTop
  apply scene.lineage_trans isBelow
  rcases scene.lineage_total sharedAbove topAbove with higher | lower
  · exact higher
  · rcases List.mem_cons.mp lower with rfl | inAncestors
    · exact scene.mem_lineage_self _
    · rw [scene.ancestors_of_parent (scene.parent_topBelow nearest)] at inAncestors
      exact absurd inAncestors sharedBelow

/-- Down from the parent or the top. -/
theorem isVisibleForOtherEntity_iff_of_anchor {anchor : ι}
    (outside : target ∉ scene.lineage observer) (notInside : observer ∉ scene.lineage target)
    (isAnchor : anchor = above ∨
      (anchor = scene.topBelow domainEntity observer ∧ above ∉ scene.lineage target))
    (isAbove : anchor ∈ scene.lineage target) :
    scene.isVisibleForOtherEntity target observer = true ↔
      scene.passes observer (if anchor = above then scene.domain domainEntity else none) anchor =
          true ∧
        ∀ entity ∈ scene.pathBelow anchor target, scene.Shown observer entity := by
  obtain ⟨noDomain, -, isTop, domainAbove⟩ :=
    scene.parent_below_domainEntity isParent nearest plain
  have different : observer ≠ target := by
    rintro rfl
    exact outside (scene.mem_lineage_self _)
  have inAbove : domainEntity ∈ scene.lineage above := mem_cons_of_mem above domainAbove
  have anchorPath : anchor ∈ scene.pathBelow domainEntity above := by
    rcases isAnchor with rfl | ⟨rfl, -⟩
    · rw [scene.mem_pathBelow_iff inAbove]
      refine ⟨scene.mem_lineage_self _, ?_⟩
      intro higher
      have lower := scene.depth_lt_of_mem_ancestors domainAbove
      have also := scene.depth_le_of_mem_lineage higher
      omega
    · exact isTop
  obtain ⟨anchorAbove, anchorBelow⟩ := (scene.mem_pathBelow_iff inAbove).mp anchorPath
  have domainAnchor : domainEntity ∈ scene.ancestors anchor := by
    rcases scene.lineage_total anchorAbove inAbove with higher | lower
    · rcases List.mem_cons.mp higher with rfl | higher
      · exact absurd (scene.mem_lineage_self _) anchorBelow
      · exact higher
    · exact absurd lower anchorBelow
  have under := scene.mem_ancestors_of_mem_lineage isAbove domainAnchor
  have notObserver : anchor ≠ observer := by
    rintro rfl
    exact notInside isAbove
  have asAnchor : scene.IsAnchor observer (scene.topBelow domainEntity observer) anchor := by
    rcases isAnchor with rfl | ⟨rfl, -⟩
    · exact Or.inr (Or.inl isParent.symm)
    · exact Or.inr (Or.inr rfl)
  have isFirst : ∀ entity ∈ scene.pathBelow anchor target,
      ¬ scene.IsAnchor observer (scene.topBelow domainEntity observer) entity := by
    intro entity onPath also
    obtain ⟨isBelow, apart⟩ := (scene.mem_pathBelow_iff isAbove).mp onPath
    rcases also with rfl | isAlsoParent | rfl
    · exact notInside isBelow
    · rw [isParent, Option.some.injEq] at isAlsoParent
      subst isAlsoParent
      rcases isAnchor with rfl | ⟨-, notAbove⟩
      · exact apart (scene.mem_lineage_self _)
      · exact notAbove isBelow
    · rcases isAnchor with rfl | ⟨rfl, -⟩
      · exact apart ((scene.mem_pathBelow_iff inAbove).mp isTop).1
      · exact apart (scene.mem_lineage_self _)
  rw [scene.isVisibleForOtherEntity_eq_generalWalk different,
    scene.generalWalk_iff nearest under outside asAnchor isAbove isFirst, anchorDomain,
    if_neg notObserver]
  · simp only [isParent, Option.some.injEq]
  intro other isTargetParent also
  rw [isParent, Option.some.injEq] at also
  exact also ▸ noDomain

theorem isVisibleForOtherEntity_iff_of_grandparent
    (isGrandparent : scene.parent above = some domainEntity)
    (outside : target ∉ scene.lineage observer) (notInside : observer ∉ scene.lineage target)
    (isAbove : above ∈ scene.lineage target) :
    scene.isVisibleForOtherEntity target observer = true ↔
      ∀ entity ∈ scene.pathBelow domainEntity target, scene.Shown observer entity := by
  obtain ⟨-, -, -, domainAbove⟩ := scene.parent_below_domainEntity isParent nearest plain
  have split : ∀ entity, entity ∈ scene.pathBelow domainEntity target ↔
      entity ∈ scene.pathBelow above target ∨ entity ∈ scene.pathBelow domainEntity above :=
    fun entity => scene.mem_pathBelow_split isAbove (mem_cons_of_mem above domainAbove)
  rw [scene.isVisibleForOtherEntity_iff_of_anchor isParent nearest plain outside notInside
    (Or.inl rfl) isAbove, if_pos rfl, scene.passes_iff_shown isGrandparent]
  simp only [split, scene.pathBelow_parent isGrandparent, mem_singleton]
  constructor
  · rintro ⟨first, rest⟩ entity (onPath | rfl)
    · exact rest entity onPath
    · exact first
  · intro all
    exact ⟨all above (Or.inr rfl), fun entity onPath => all entity (Or.inl onPath)⟩

/-- It sees what shares an ancestor, unhidden. -/
theorem isVisibleForOtherEntity_iff_of_shared {shared : ι}
    (outside : target ∉ scene.lineage observer) (notInside : observer ∉ scene.lineage target)
    (isShared : shared ∈ scene.pathBelow domainEntity above)
    (isBelow : shared ∈ scene.lineage target)
    (allows : Allows (scene.domain domainEntity) observer above)
    (way : ∀ entity ∈ scene.pathBelow domainEntity above, scene.Shown observer entity) :
    scene.isVisibleForOtherEntity target observer = true ↔
      ∀ entity ∈ scene.pathBelow domainEntity target, scene.Shown observer entity := by
  obtain ⟨-, -, isTop, domainAbove⟩ := scene.parent_below_domainEntity isParent nearest plain
  have inAbove : domainEntity ∈ scene.lineage above := mem_cons_of_mem above domainAbove
  obtain ⟨anchor, isAnchor, isAbove, onWay⟩ : ∃ anchor,
      (anchor = above ∨
        (anchor = scene.topBelow domainEntity observer ∧ above ∉ scene.lineage target)) ∧
      anchor ∈ scene.lineage target ∧ anchor ∈ scene.pathBelow domainEntity above := by
    by_cases parentShared : above ∈ scene.lineage target
    · refine ⟨above, Or.inl rfl, parentShared, ?_⟩
      rw [scene.mem_pathBelow_iff inAbove]
      refine ⟨scene.mem_lineage_self above, ?_⟩
      intro higher
      have lower := scene.depth_lt_of_mem_ancestors domainAbove
      have also := scene.depth_le_of_mem_lineage higher
      omega
    · exact ⟨_, Or.inr ⟨rfl, parentShared⟩, scene.topBelow_mem_lineage_of_shared isParent nearest
        plain isShared isBelow, isTop⟩
  obtain ⟨anchorAbove, anchorBelow⟩ := (scene.mem_pathBelow_iff inAbove).mp onWay
  have domainAnchor : domainEntity ∈ scene.lineage anchor := by
    rcases scene.lineage_total anchorAbove inAbove with higher | lower
    · exact higher
    · exact absurd lower anchorBelow
  have open_ : scene.passes observer (if anchor = above then scene.domain domainEntity else none)
      anchor = true := by
    rw [scene.passes_iff]
    refine ⟨?_, (way anchor onWay).2⟩
    split_ifs with isParentAnchor
    · rw [isParentAnchor]
      exact allows
    · intro verdict impossible
      contradiction
  rw [scene.isVisibleForOtherEntity_iff_of_anchor isParent nearest plain outside notInside
    isAnchor isAbove]
  simp only [open_, true_and, scene.mem_pathBelow_split isAbove domainAnchor]
  constructor
  · rintro below entity (onPath | higher)
    · exact below entity onPath
    · apply way
      rw [scene.mem_pathBelow_split anchorAbove domainAnchor]
      exact Or.inr higher
  · intro all entity onPath
    exact all entity (Or.inl onPath)

end Deeper

/-- An entity sees itself, what it is inside of, and what every domain and flag on the way from its
vantage shows to it. -/
theorem isVisibleForOtherEntity_iff_path (nearest : scene.domainEntity observer = some domainEntity)
    (under : domainEntity ∈ scene.ancestors target) :
    (target ∈ scene.lineage observer → scene.isVisibleForOtherEntity target observer = true) ∧
    (observer ∈ scene.ancestors target →
      scene.passes observer (scene.domain observer) observer = true →
      (scene.isVisibleForOtherEntity target observer = true ↔
        ∀ entity ∈ scene.pathBelow observer target, scene.Shown observer entity)) ∧
    (target ∉ scene.lineage observer → observer ∉ scene.ancestors target →
      ∀ above, scene.parent observer = some above →
        (above = domainEntity →
          (scene.parent target = some domainEntity ∨
            scene.passes observer (scene.domain domainEntity) domainEntity = true) →
          (scene.isVisibleForOtherEntity target observer = true ↔
            ∀ entity ∈ scene.pathBelow domainEntity target, scene.Shown observer entity)) ∧
        (above ∈ scene.ancestors target → scene.parent above = some domainEntity →
          (scene.isVisibleForOtherEntity target observer = true ↔
            ∀ entity ∈ scene.pathBelow domainEntity target, scene.Shown observer entity)) ∧
        (∀ shared ∈ scene.pathBelow domainEntity above, shared ∈ scene.lineage target →
          Allows (scene.domain domainEntity) observer above →
          (∀ entity ∈ scene.pathBelow domainEntity above, scene.Shown observer entity) →
          (scene.isVisibleForOtherEntity target observer = true ↔
            ∀ entity ∈ scene.pathBelow domainEntity target, scene.Shown observer entity))) := by
  refine ⟨scene.isVisibleForOtherEntity_of_inside nearest under, ?_, ?_⟩
  · intro contained open_
    rw [scene.isVisibleForOtherEntity_iff_of_contained nearest contained]
    simp only [open_, true_and]
  intro outside notAncestor above isParent
  have notInside : observer ∉ scene.lineage target := by
    rw [lineage, mem_cons, not_or]
    refine ⟨?_, notAncestor⟩
    rintro rfl
    exact outside (scene.mem_lineage_self _)
  refine ⟨?_, ?_, ?_⟩
  · rintro rfl direct
    exact scene.isVisibleForOtherEntity_iff_of_parent isParent nearest under outside notInside
      direct.resolve_left
  · intro inside isGrandparent
    have plain : above ≠ domainEntity := by
      rintro rfl
      exact absurd (scene.depth_parent _ _ isGrandparent) (lt_irrefl _)
    exact scene.isVisibleForOtherEntity_iff_of_grandparent isParent nearest plain isGrandparent
      outside notInside (mem_cons_of_mem target inside)
  · intro shared isShared isBelow allows way
    have plain : above ≠ domainEntity := by
      rintro rfl
      simp [pathBelow, lineage] at isShared
    exact scene.isVisibleForOtherEntity_iff_of_shared isParent nearest plain outside notInside
      isShared isBelow allows way

end Path

/-- A tree, and a rider in a private cart. -/
def wayside : Scene Nat where
  parent
    | 1 => some 0
    | 2 => some 1
    | 3 => some 0
    | _ => none
  flags
    | 1 => Flags.empty.addFlags entityVisibilityPrivate
    | _ => Flags.empty
  domain
    | 0 => some fun _ _ => true
    | _ => none
  depth := id
  depth_parent := by
    intro entity above isParent
    split at isParent <;> simp_all
    all_goals omega

/-- The cart is seen, the tree is not. -/
theorem wayside_rider :
    wayside.domainEntity 2 = some 0 ∧
    (0 ∈ wayside.ancestors 1 ∧ wayside.isVisibleForOtherEntity 1 2 = true ∧
      ¬ ∀ entity ∈ wayside.pathBelow 0 1, wayside.Shown 2 entity) ∧
    (0 ∈ wayside.ancestors 3 ∧ wayside.isVisibleForOtherEntity 3 2 = false ∧
      ∀ entity ∈ wayside.pathBelow 0 3, wayside.Shown 2 entity) := by
  refine ⟨by decide +kernel, ⟨by decide +kernel, by decide +kernel, ?_⟩,
    by decide +kernel, by decide +kernel, ?_⟩
  · intro all
    have hidden : wayside.passes 2 (wayside.domain 0) 1 = true :=
      (wayside.passes_iff_shown rfl).mpr (all 1 (by decide +kernel))
    exact absurd hidden (by decide +kernel)
  · have path : wayside.pathBelow 0 3 = [3] := by decide +kernel
    rw [path, forall_mem_singleton]
    have seen : wayside.passes 2 (wayside.domain 0) 3 = true := by decide +kernel
    exact (wayside.passes_iff_shown rfl).mp seen

/-- Cart and rider are to be shown. -/
theorem wayside_tree :
    wayside.isVisibleForOtherEntity 2 3 = true ↔
      ∀ entity ∈ wayside.pathBelow 0 2, wayside.Shown 3 entity :=
  ((wayside.isVisibleForOtherEntity_iff_path (by decide +kernel) (by decide +kernel)).2.2
    (by decide +kernel) (by decide +kernel) 0 rfl).1 rfl (Or.inr (by decide +kernel))

/-- For two entities beside each other the shortcut gives what the general walk gives, unless only
the entity looked at is shown. -/
theorem shortcut_eq_generalWalk_iff {observer target above : ι} {verdict : Verdict ι}
    (different : observer ≠ target) (isParent : scene.parent target = some above)
    (also : scene.parent observer = some above) (hasDomain : scene.domain above = some verdict) :
    scene.shortcut target observer verdict = scene.generalWalk target observer ↔
      (verdict observer target = true →
        (scene.hasFlags observer entityAdmin = true ∨
          (scene.hasFlags target entityVisibilityPrivate = false ∧
            scene.hasFlags target entityVisibilityProtected = false)) →
        verdict observer above = true ∧
          (scene.hasFlags observer entityAdmin = true ∨
            (scene.hasFlags above entityVisibilityPrivate = false ∧
              scene.hasFlags above entityVisibilityProtected = false))) := by
  have lowerObserver := scene.depth_parent _ _ also
  have notObserver : above ≠ observer := by
    rintro rfl
    exact lt_irrefl _ lowerObserver
  have notParent : scene.parent above ≠ some observer := by
    intro isAbove
    have higher := scene.depth_parent _ _ isAbove
    omega
  have targetNotParent : scene.parent target ≠ some observer := by
    rw [isParent, ne_eq, Option.some.injEq]
    exact notObserver
  have under : above ∈ scene.ancestors target := by
    rw [scene.ancestors_of_parent isParent]
    exact scene.mem_lineage_self above
  have outside : target ∉ scene.lineage observer := by
    rw [lineage, mem_cons, not_or]
    exact ⟨different.symm, scene.not_mem_ancestors_of_parent isParent also⟩
  have notInside : observer ∉ scene.lineage target := by
    rw [lineage, mem_cons, not_or]
    exact ⟨different, scene.not_mem_ancestors_of_parent also isParent⟩
  have walk := scene.generalWalk_iff_of_parent also (scene.domainEntity_of_parent also hasDomain)
    under outside notInside
  rw [scene.pathBelow_parent isParent, forall_mem_singleton, scene.passes_iff,
    scene.unflagged_iff notParent] at walk
  have quick := scene.shortcut_iff_shown isParent notObserver hasDomain
  have shown : scene.passes observer (scene.domain above) target = true ↔ _ :=
    scene.passes_iff_shown isParent
  rw [scene.passes_iff, scene.unflagged_iff targetNotParent] at shown
  rw [Bool.eq_iff_iff, walk, quick, ← shown, hasDomain, iff_and_self]
  simp only [Allows, Option.some.injEq, forall_eq', and_imp]

/-- A fly and a lamp, and no observers. -/
def lanternFlags : Nat → Flags
  | 3 => Flags.empty.addFlags entityContainedVisible
  | _ => Flags.empty

def lantern : Scene Nat where
  parent
    | 1 => some 0
    | 2 => some 1
    | 3 => some 1
    | _ => none
  flags := lanternFlags
  domain
    | 1 => some (containerVerdict lanternFlags 1 fun _ => false)
    | _ => none
  depth := id
  depth_parent := by
    intro entity above isParent
    split at isParent <;> simp_all
    all_goals omega

/-- Only the shortcut shows the lamp. -/
theorem lantern_shortcut_ne_generalWalk :
    lantern.shortcut 3 2 (containerVerdict lanternFlags 1 fun _ => false) = true ∧
      lantern.generalWalk 3 2 = false := by
  decide +kernel

/-- To the lamp the fly is hidden either way. -/
theorem lantern_shortcut_eq_generalWalk :
    lantern.shortcut 2 3 (containerVerdict lanternFlags 1 fun _ => false) =
      lantern.generalWalk 2 3 :=
  (lantern.shortcut_eq_generalWalk_iff (by decide) rfl rfl rfl).mpr (by decide +kernel)

end Scene

end Cyphesis.Rules
