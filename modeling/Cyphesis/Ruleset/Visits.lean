import Cyphesis.Ruleset.Coherence

/-!
# Which types an update visits

An update of a class goes to the class and everything below it, to each type exactly once.
-/

namespace Cyphesis.Ruleset

open Std (ExtTreeMap)
open Cyphesis.Foundation List Std.ExtTreeMap

namespace RuleBook

/-- A class and all that inherit from it. -/
inductive Below (book : RuleBook) (top : String) : String → Prop
  | self : Below book top top
  | child {name parent : String} {factory : EntityFactory} :
      book.entityFactory name = some factory → factory.parent = some parent →
      Below book top parent → Below book top name

section

variable {book changed : RuleBook} {top name : String}

theorem Below.sameShape
    (below : Below book top name) (same : SameShape book changed) : Below changed top name := by
  induction below with
  | self => exact .self
  | child known isParent _ ih =>
    obtain ⟨factory, isFactory, sameParent, -⟩ := same.entityFactory known
    exact .child isFactory (sameParent.trans isParent) ih

theorem Below.of_sameShape
    (below : Below changed top name) (same : SameShape book changed) : Below book top name := by
  induction below with
  | self => exact .self
  | child known isParent _ ih =>
    obtain ⟨factory, isFactory, sameParent, -⟩ := same.entityFactory_before known
    exact .child isFactory (sameParent.symm.trans isParent) ih

end

section Forest

variable {book : RuleBook} {rank : String → Nat} (forest : book.Forest rank)

include forest

theorem Below.rank_le {top name : String} (below : Below book top name) : rank top ≤ rank name := by
  induction below with
  | self => exact Nat.le_refl _
  | child known isParent _ ih => exact ih.trans (forest.rank_lt known isParent).le

omit forest in
theorem Below.total {first second name : String} (left : Below book first name)
    (right : Below book second name) : Below book first second ∨ Below book second first := by
  induction left with
  | self => exact Or.inr right
  | child known isParent below ih =>
    cases right with
    | self => exact Or.inl (.child known isParent below)
    | child knownAgain isParentAgain rightBelow =>
      rw [known] at knownAgain
      obtain rfl := Option.some.inj knownAgain
      rw [isParent] at isParentAgain
      obtain rfl := Option.some.inj isParentAgain
      exact ih rightBelow

section

variable {factory : EntityFactory}

theorem below_iff {top : String}
    (known : book.entityFactory top = some factory) (name : String) :
    Below book top name ↔ name = top ∨ ∃ child ∈ factory.children, Below book child name := by
  constructor
  · intro below
    induction below with
    | self => exact Or.inl rfl
    | @child name parent nameFactory nameKnown isParent below ih =>
      rcases ih with rfl | ⟨child, isChild, below⟩
      · obtain ⟨parentFactory, isFactory, listed⟩ := forest.listed nameKnown isParent
        rw [known] at isFactory
        obtain rfl := Option.some.inj isFactory
        exact Or.inr ⟨name, listed, .self⟩
      · exact Or.inr ⟨child, isChild, .child nameKnown isParent below⟩
  · rintro (rfl | ⟨child, isChild, below⟩)
    · exact .self
    · obtain ⟨childFactory, childKnown, isParent⟩ := forest.child known isChild
      have childBelow : Below book top child := .child childKnown isParent .self
      clear isChild childKnown isParent
      induction below with
      | self => exact childBelow
      | child nameKnown isParent _ ih => exact .child nameKnown isParent ih

theorem not_below_child {top child : String}
    (known : book.entityFactory top = some factory) (isChild : child ∈ factory.children) :
    ¬ Below book child top := by
  intro below
  obtain ⟨childFactory, childKnown, isParent⟩ := forest.child known isChild
  exact absurd (Below.rank_le forest below) (not_le_of_gt (forest.rank_lt childKnown isParent))

theorem eq_of_below {top first second name : String}
    (known : book.entityFactory top = some factory) (isFirst : first ∈ factory.children)
    (isSecond : second ∈ factory.children) (left : Below book first name)
    (right : Below book second name) : first = second := by
  have apart : ∀ {one other : String}, one ∈ factory.children → other ∈ factory.children →
      Below book one other → one = other := by
    intro one other isOne isOther below
    cases below with
    | self => rfl
    | child otherKnown isParent below =>
      obtain ⟨otherFactory, otherKnownAgain, isParentAgain⟩ := forest.child known isOther
      rw [otherKnown] at otherKnownAgain
      obtain rfl := Option.some.inj otherKnownAgain
      rw [isParent] at isParentAgain
      obtain rfl := Option.some.inj isParentAgain
      exact absurd below (not_below_child forest known isOne)
  rcases left.total right with below | below
  · exact apart isFirst isSecond below
  · exact (apart isSecond isFirst below).symm

end

end Forest

/-- Types are updated once, to factories. -/
structure Visited (book : RuleBook) (changes : Changes) (result : RuleBook × Changes)
    (visited : String → Prop) : Prop where
  sameShape : SameShape book result.1
  inside : ∀ name, visited name → ∃ node factory,
    book.atlasObjects[name]? = some node ∧ result.1.entityFactory name = some factory ∧
    result.1.atlasObjects[name]? =
      some (node.updateProperties factory.attributes book.propertyFactories).1 ∧
    result.2[name]? =
      some (changes[name]?.getD (node.updateProperties factory.attributes book.propertyFactories).2)
  outside : ∀ name, ¬ visited name →
    result.1.atlasObjects[name]? = book.atlasObjects[name]? ∧
    result.1.entityFactory name = book.entityFactory name ∧ result.2[name]? = changes[name]?

section

variable {book : RuleBook}

variable {changes : Changes} {result : RuleBook × Changes}

theorem Visited.congr
    {visited other : String → Prop} (visits : Visited book changes result visited)
    (same : ∀ name, other name ↔ visited name) : Visited book changes result other where
  sameShape := visits.sameShape
  inside name isVisited := visits.inside name ((same name).mp isVisited)
  outside name notVisited := visits.outside name fun isVisited =>
    notVisited ((same name).mpr isVisited)

theorem Visited.trans {middle result : RuleBook × Changes}
    {first second : String → Prop} (left : Visited book changes middle first)
    (right : Visited middle.1 middle.2 result second)
    (disjoint : ∀ name, first name → ¬ second name) :
    Visited book changes result fun name => first name ∨ second name where
  sameShape := left.sameShape.trans right.sameShape
  inside name isVisited := by
    by_cases isSecond : second name
    · obtain ⟨node, factory, isNode, isFactory, isUpdated, isEntry⟩ := right.inside name isSecond
      obtain ⟨sameNode, -, sameEntry⟩ := left.outside name fun isFirst =>
        disjoint name isFirst isSecond
      rw [left.sameShape.manager] at isUpdated isEntry
      rw [sameEntry] at isEntry
      exact ⟨node, factory, sameNode.symm.trans isNode, isFactory, isUpdated, isEntry⟩
    · rcases isVisited with isFirst | isVisited
      · obtain ⟨node, factory, isNode, isFactory, isUpdated, isEntry⟩ := left.inside name isFirst
        obtain ⟨sameNode, sameFactory, sameEntry⟩ := right.outside name isSecond
        exact ⟨node, factory, isNode, sameFactory.trans isFactory, sameNode.trans isUpdated,
          sameEntry.trans isEntry⟩
      · exact absurd isVisited isSecond
  outside name notVisited := by
    rw [not_or] at notVisited
    obtain ⟨sameNode, sameFactory, sameEntry⟩ := left.outside name notVisited.1
    obtain ⟨laterNode, laterFactory, laterEntry⟩ := right.outside name notVisited.2
    exact ⟨laterNode.trans sameNode, laterFactory.trans sameFactory, laterEntry.trans sameEntry⟩

theorem visited_updateType {name : String} {node : TypeNode}
    {factory : EntityFactory} (isNode : book.atlasObjects[name]? = some node)
    (known : book.entityFactory name = some factory) (changes : Changes) :
    Visited book changes (book.updateType changes name factory.attributes) (· = name) where
  sameShape := sameShape_updateType isNode changes factory.attributes
  inside other isName := by
    subst isName
    have isEntry : (book.updateType changes other factory.attributes).2 =
        changes.insertIfNew other
          (node.updateProperties factory.attributes book.propertyFactories).2 := by
      rw [updateType, isNode]
    refine ⟨node, factory, isNode, ?_, ?_, ?_⟩
    · rw [entityFactory_updateType, known]
    · rw [atlasObjects_updateType isNode, if_pos rfl]
    · rw [isEntry, getElem?_insertIfNew]
      cases found : changes[other]? with
      | none => simp [mem_iff_isSome_getElem?, found]
      | some old => simp [mem_iff_isSome_getElem?, found]
  outside other notName := by
    have isEntry : (book.updateType changes name factory.attributes).2 =
        changes.insertIfNew name
          (node.updateProperties factory.attributes book.propertyFactories).2 := by
      rw [updateType, isNode]
    refine ⟨?_, ?_, ?_⟩
    · rw [atlasObjects_updateType isNode, if_neg (Ne.symm notName)]
    · rw [entityFactory_updateType]
    · rw [isEntry, getElem?_insertIfNew]
      simp [Ne.symm notName]

theorem Visited.setEntityFactory {visited : String → Prop} {name : String}
    {factory old : EntityFactory} (known : book.entityFactory name = some old)
    (same : shape factory = shape old) (isVisited : visited name)
    (visits : Visited (book.setEntityFactory name factory) changes result visited) :
    Visited book changes result visited where
  sameShape := (sameShape_setEntityFactory known same).trans visits.sameShape
  inside other otherVisited := visits.inside other otherVisited
  outside other notVisited := by
    have notName : name ≠ other := by
      rintro rfl
      exact notVisited isVisited
    have same := visits.outside other notVisited
    rw [entityFactory_setEntityFactory, if_neg notName] at same
    exact same

end

section

variable {rank : String → Nat} {book : RuleBook} {factory : EntityFactory}
  (forest : book.Forest rank)

include forest

theorem child_of_split {name child : String} {done rest : List String}
    (known : book.entityFactory name = some factory)
    (split : factory.children = done ++ child :: rest) :
    child ∈ factory.children ∧
      ∀ other, Below book child other → ¬ ∃ before ∈ done, Below book before other := by
  have isChild : child ∈ factory.children := by
    rw [split]
    exact mem_append_right _ mem_cons_self
  refine ⟨isChild, ?_⟩
  rintro other belowChild ⟨before, isDone, below⟩
  have isBefore : before ∈ factory.children := by
    rw [split]
    exact mem_append_left _ isDone
  obtain rfl := eq_of_below forest known isBefore isChild below belowChild
  have distinct := forest.nodup known
  rw [split, nodup_append] at distinct
  exact distinct.2.2 before isDone before mem_cons_self rfl

/-- The class and everything below. -/
theorem updateProperties_visited {name : String}
    (known : book.entityFactory name = some factory) (changes : Changes) {depth : Nat}
    (enough : book.depthBound ≤ depth + rank name) :
    Visited book changes (updateProperties depth (book, changes) name) (Below book name) := by
  induction depth generalizing book name factory changes with
  | zero =>
    have bounded := forest.rank_bound known
    omega
  | succ depth ih =>
    obtain ⟨node, isNode⟩ := forest.typed known
    rw [updateProperties_succ known]
    -- The children in the list have been visited; the others are still to come.
    have loop : ∀ (rest done : List String), factory.children = done ++ rest →
        ∀ (result : RuleBook × Changes),
        Visited book changes result (fun other => other = name ∨
          ∃ child ∈ done, Below book child other) →
        Visited book changes (rest.foldl (handDown depth factory.attributes) result)
          (fun other => other = name ∨ ∃ child ∈ factory.children, Below book child other) := by
      intro rest
      induction rest with
      | nil =>
        intro done split result visits
        rw [append_nil] at split
        rw [split]
        exact visits
      | cons child rest loop =>
        intro done split result visits
        obtain ⟨isChild, apart⟩ := child_of_split forest known split
        obtain ⟨childBefore, isChildBefore, isParent⟩ := forest.child known isChild
        obtain ⟨childFactory, isChildFactory, -⟩ := visits.sameShape.entityFactory isChildBefore
        have higher := forest.rank_lt isChildBefore isParent
        have shapeSet := sameShape_setEntityFactory isChildFactory
          (show shape (childFactory.inherit factory.attributes) = shape childFactory from rfl)
        have whole := visits.sameShape.trans shapeSet
        have step : Visited result.1 result.2
            (handDown depth factory.attributes result child) (Below book child) := by
          rw [handDown, isChildFactory]
          apply Visited.setEntityFactory isChildFactory _ Below.self
          · have childKnown : (result.1.setEntityFactory child
                (childFactory.inherit factory.attributes)).entityFactory child =
                  some (childFactory.inherit factory.attributes) := by
              rw [entityFactory_setEntityFactory, if_pos rfl]
            have bound : (result.1.setEntityFactory child
                (childFactory.inherit factory.attributes)).depthBound ≤ depth + rank child := by
              rw [whole.depthBound]
              omega
            have visited := ih (forest.sameShape whole) childKnown result.2 bound
            apply visited.congr
            intro other
            exact ⟨fun below => below.sameShape whole, fun below => below.of_sameShape whole⟩
          · rfl
        have extended := visits.trans step (by
          rintro other (rfl | ⟨before, isDone, below⟩) belowChild
          · exact not_below_child forest known isChild belowChild
          · exact apart other belowChild ⟨before, isDone, below⟩)
        rw [foldl_cons]
        apply loop (done ++ [child])
        · rw [append_assoc]
          exact split
        · apply extended.congr
          intro other
          simp only [mem_append, mem_singleton, or_and_right, exists_or,
            exists_eq_left, or_assoc]
    have all := loop factory.children [] rfl _
      ((visited_updateType isNode known changes).congr fun other => by simp)
    apply all.congr
    exact below_iff forest known

end

/-- All but the first inherit from their parents. -/
structure Inherits (book changed : RuleBook) (top : String) (visited : String → Prop) : Prop where
  kept : changed.entityFactory top = book.entityFactory top
  taken : ∀ name, visited name → name ≠ top → ∃ old factory parent parentFactory,
    book.entityFactory name = some old ∧ changed.entityFactory name = some factory ∧
    old.parent = some parent ∧ visited parent ∧
    changed.entityFactory parent = some parentFactory ∧
    factory.attributes = old.classAttributes.foldl combineInto parentFactory.attributes

/-- What is below the child inherits from it. -/
theorem Inherits.turn {rank : String → Nat} {book given before after : RuleBook}
    {name child : String} {factory childFactory : EntityFactory} {done rest : List String}
    (forest : book.Forest rank) (known : book.entityFactory name = some factory)
    (split : factory.children = done ++ child :: rest)
    (isChildFactory : book.entityFactory child = some childFactory)
    (isParent : childFactory.parent = some name) (whole : SameShape book given)
    (isGiven : ∀ other, given.entityFactory other =
      if child = other then some (childFactory.inherit factory.attributes)
      else before.entityFactory other)
    (frame : ∀ other, ¬ Below book child other →
      after.entityFactory other = before.entityFactory other)
    (untouched : ∀ other, (¬ ∃ child ∈ done, Below book child other) →
      before.entityFactory other = book.entityFactory other)
    (inherits : Inherits book before name fun other => other = name ∨
      ∃ child ∈ done, Below book child other)
    (step : Inherits given after child (Below given child)) :
    Inherits book after name fun other => other = name ∨
      ∃ other' ∈ done ++ [child], Below book other' other := by
  obtain ⟨isChild, apart⟩ := child_of_split forest known split
  have nameOutside : ¬ Below book child name := not_below_child forest known isChild
  constructor
  · exact (frame name nameOutside).trans inherits.kept
  · rintro other isVisited notName
    by_cases belowChild : Below book child other
    · by_cases isSame : other = child
      · subst isSame
        refine ⟨childFactory, _, name, factory, isChildFactory,
          step.kept.trans ((isGiven other).trans (if_pos rfl)), isParent, Or.inl rfl, ?_, rfl⟩
        exact (frame name nameOutside).trans (inherits.kept.trans known)
      · rcases step.taken other (belowChild.sameShape whole) isSame with
          ⟨old, now, parent, parentFactory, isOld, isNow, isOldParent, below, isParentNow, taken⟩
        have isOldBefore : book.entityFactory other = some old := by
          rw [isGiven, if_neg (Ne.symm isSame), untouched other (apart other belowChild)] at isOld
          exact isOld
        exact ⟨old, now, parent, parentFactory, isOldBefore, isNow, isOldParent,
          Or.inr ⟨child, mem_append_right _ mem_cons_self,
            below.of_sameShape whole⟩, isParentNow, taken⟩
    · have isBefore : other = name ∨ ∃ earlier ∈ done, Below book earlier other := by
        rcases isVisited with isName | ⟨earlier, isListed, below⟩
        · exact Or.inl isName
        · rcases List.mem_append.mp isListed with isDone | isChildName
          · exact Or.inr ⟨earlier, isDone, below⟩
          · rw [mem_singleton] at isChildName
            exact absurd (isChildName ▸ below) belowChild
      rcases inherits.taken other isBefore notName with
        ⟨old, now, parent, parentFactory, isOld, isNow, isOldParent, visited, isParentNow, taken⟩
      have parentOutside : ¬ Below book child parent := fun below =>
        belowChild (.child isOld isOldParent below)
      refine ⟨old, now, parent, parentFactory, isOld, (frame other belowChild).trans isNow,
        isOldParent, ?_, (frame parent parentOutside).trans isParentNow, taken⟩
      rcases visited with isName | ⟨earlier, isDone, below⟩
      · exact Or.inl isName
      · exact Or.inr ⟨earlier, mem_append_left _ isDone, below⟩

theorem updateProperties_inherits {rank : String → Nat} {book : RuleBook} {name : String}
    {factory : EntityFactory} (forest : book.Forest rank)
    (known : book.entityFactory name = some factory) (changes : Changes) {depth : Nat}
    (enough : book.depthBound ≤ depth + rank name) :
    Inherits book (updateProperties depth (book, changes) name).1 name (Below book name) := by
  induction depth generalizing book name factory changes with
  | zero =>
    have bounded := forest.rank_bound known
    omega
  | succ depth ih =>
    obtain ⟨node, isNode⟩ := forest.typed known
    rw [updateProperties_succ known]
    -- The loop keeps the first class, and the children that it has visited.
    have loop : ∀ (rest done : List String), factory.children = done ++ rest →
        ∀ (result : RuleBook × Changes),
        SameShape book result.1 →
        (∀ other, (¬ ∃ child ∈ done, Below book child other) →
          result.1.entityFactory other = book.entityFactory other) →
        Inherits book result.1 name (fun other => other = name ∨
          ∃ child ∈ done, Below book child other) →
        Inherits book (rest.foldl (handDown depth factory.attributes) result).1 name
          (fun other => other = name ∨ ∃ child ∈ factory.children, Below book child other) := by
      intro rest
      induction rest with
      | nil =>
        intro done split result _ _ inherits
        rw [append_nil] at split
        rw [split]
        exact inherits
      | cons child rest loop =>
        intro done split result same untouched inherits
        obtain ⟨isChild, apart⟩ := child_of_split forest known split
        obtain ⟨childFactory, isChildFactory, isParent⟩ := forest.child known isChild
        have childNow : result.1.entityFactory child = some childFactory :=
          (untouched child (apart child .self)).trans isChildFactory
        have higher := forest.rank_lt isChildFactory isParent
        have shapeSet := sameShape_setEntityFactory childNow
          (show shape (childFactory.inherit factory.attributes) = shape childFactory from rfl)
        have whole := same.trans shapeSet
        have childKnown : (result.1.setEntityFactory child
            (childFactory.inherit factory.attributes)).entityFactory child =
              some (childFactory.inherit factory.attributes) := by
          rw [entityFactory_setEntityFactory, if_pos rfl]
        have bound : (result.1.setEntityFactory child
            (childFactory.inherit factory.attributes)).depthBound ≤ depth + rank child := by
          rw [whole.depthBound]
          omega
        have visits := updateProperties_visited (forest.sameShape whole) childKnown result.2 bound
        have step := ih (forest.sameShape whole) childKnown result.2 bound
        have isStep : handDown depth factory.attributes result child =
            updateProperties depth (result.1.setEntityFactory child
              (childFactory.inherit factory.attributes), result.2) child := by
          rw [handDown, childNow]
        rw [foldl_cons, isStep]
        -- Outside the child and what is below it, nothing happens to factories.
        have frame : ∀ other, ¬ Below book child other →
            (updateProperties depth (result.1.setEntityFactory child
              (childFactory.inherit factory.attributes), result.2) child).1.entityFactory
                other = result.1.entityFactory other := by
          intro other notBelow
          have notChild : child ≠ other := by
            rintro rfl
            exact notBelow .self
          rw [(visits.outside other fun below => notBelow (below.of_sameShape whole)).2.1,
            entityFactory_setEntityFactory, if_neg notChild]
        apply loop (done ++ [child])
        · rw [append_assoc]
          exact split
        · exact whole.trans visits.sameShape
        · intro other notBelow
          have notChild : ¬ Below book child other := fun below =>
            notBelow ⟨child, mem_append_right _ mem_cons_self, below⟩
          rw [frame other notChild]
          apply untouched
          rintro ⟨before, isDone, below⟩
          exact notBelow ⟨before, mem_append_left _ isDone, below⟩
        · exact inherits.turn forest known split isChildFactory isParent whole
            (fun other => entityFactory_setEntityFactory ..) frame untouched step
    have all := loop factory.children [] rfl (book.updateType changes name factory.attributes)
      (sameShape_updateType isNode changes factory.attributes)
      (fun other _ => entityFactory_updateType book changes name other _)
      ⟨entityFactory_updateType book changes name name _, by
        rintro other (isName | ⟨child, isDone, -⟩) notName
        · exact absurd isName notName
        · cases isDone⟩
    refine ⟨all.kept, ?_⟩
    intro other below notName
    obtain ⟨old, now, parent, parentFactory, isOld, isNow, isOldParent, visited, rest⟩ :=
      all.taken other ((below_iff forest known other).mp below) notName
    exact ⟨old, now, parent, parentFactory, isOld, isNow, isOldParent,
      (below_iff forest known parent).mpr visited, rest⟩

end RuleBook

end Cyphesis.Ruleset
