import Cyphesis.EntityFilter.Readings
import Mathlib.Data.List.Nodup

/-!
# Which expressions are read as meant

The texts of a tree that leans to the right are read as meant; every other one, if its comparisons
differ from each other, has a text that is refused or misread.
-/

namespace Cyphesis.EntityFilter

open List

universe u

variable {α : Type u} {expression : Expression α} {tokens rest left : List (Token α)}
  {pred lhs rhs : Predicate α} {depth : Nat} (connective : Connective)

/-- No reading to the end has the meaning. -/
def Misread (expression : Expression α) (tokens : List (Token α)) : Prop :=
  ∀ rest depth pred, Stops rest → (tokens ++ rest).length < depth →
    parenthesisedPredicate depth (tokens ++ rest) = some (pred, rest) → ¬Means pred expression

/-- No negation, and not one group. -/
structure Dead (tokens : List (Token α)) : Prop where
  refused : ∀ rest, predicate (tokens ++ rest) = none
  shape : (∃ more, tokens = .not .symbol :: more) ∨
    ∃ inner, tokens = .opening :: (inner ++ [.closing]) ∧ Balanced inner

theorem Dead.left_eq (dead : Dead tokens)
    (isParsed : parenthesisedPredicate depth (tokens ++ rest) = some (pred, left)) :
    left = rest ∧ ∃ inner, tokens = .opening :: (inner ++ [.closing]) := by
  obtain ⟨more, shallower, isOpening, isInner⟩ :=
    exists_opening_of_refused (dead.refused rest) isParsed
  rcases dead.shape with ⟨negated, rfl⟩ | ⟨inner, rfl, balanced⟩
  · exact absurd isOpening nofun
  · rw [group_append] at isOpening
    cases isOpening
    obtain ⟨taken, isTaken, _, takenBalanced, _⟩ := takes_parenthesisedPredicate isInner
    exact ⟨(balanced.eq_of_append_closing takenBalanced isTaken).symm, inner, rfl⟩

theorem written_join (spelling : Spelling) {first second : Expression α}
    {leftText right : List (Token α)}
    (isLeft : Written .operand first leftText) (isRight : Written .operand second right) :
    Written .disjunction (connective.tree first second)
      (leftText ++ connective.token spelling :: right) := by
  cases connective with
  | and => exact .and spelling nofun (isLeft.of_operand .conjunction) isRight
  | or => exact .or spelling (isLeft.of_operand .disjunction) (isRight.of_operand .conjunction)

theorem dead_join (first second : Expression α) :
    ∃ tokens, Written .operand (connective.tree first second) tokens ∧ Dead tokens := by
  have isLeft : Written .operand first (.opening :: (first.print .disjunction ++ [.closing])) :=
    (written_print .disjunction first).group .operand
  have isInner := written_join connective .symbol isLeft (written_print .operand second)
  refine ⟨_, isInner.group .operand, ?_, Or.inr ⟨_, rfl, isInner.balanced⟩⟩
  intro rest
  rw [group_append, predicate, append_assoc, group_append]
  split
  · rename_i found foundLeft isFound
    have isToken := (predicate_group (written_print .disjunction first).balanced isFound).1
    have isConnective := (List.cons.inj isToken).1
    cases connective <;> contradiction
  · rfl

theorem Dead.not (dead : Dead tokens) : Dead (.not .symbol :: tokens) := by
  refine ⟨?_, Or.inl ⟨tokens, rfl⟩⟩
  intro rest
  have noComparison : comparerPredicate (tokens ++ rest) = none := by
    rcases dead.shape with ⟨more, rfl⟩ | ⟨inner, rfl, _⟩
    · rfl
    · rfl
  simp [predicate, noComparison, dead.refused rest, boolPredicate]

theorem dead_text (notLiteral : ¬expression.Literal) :
    ∃ tokens, Written .operand expression tokens ∧ Dead tokens := by
  induction expression with
  | comparison test => exact absurd trivial notLiteral
  | not operand ih =>
    obtain ⟨tokens, isOperand, dead⟩ := ih notLiteral
    exact ⟨.not .symbol :: tokens, .not .operand .symbol isOperand, dead.not⟩
  | and lhs rhs => exact dead_join .and lhs rhs
  | or lhs rhs => exact dead_join .or lhs rhs

theorem misread_not {operand : Expression α} (notLiteral : ¬operand.Literal) :
    ∃ tokens, Written .disjunction (.not operand) tokens ∧ Misread (.not operand) tokens := by
  obtain ⟨tokens, isOperand, dead⟩ := dead_text notLiteral
  refine ⟨.not .symbol :: tokens, .not .disjunction .symbol isOperand, ?_⟩
  intro rest depth pred _ _ isParsed
  obtain ⟨_, inner, impossible⟩ := dead.not.left_eq isParsed
  exact absurd impossible nofun

theorem misread_join_dead {first : Expression α} (second : Expression α)
    (notLiteral : ¬first.Literal) :
    ∃ tokens, Written .disjunction (connective.tree first second) tokens ∧
      Misread (connective.tree first second) tokens := by
  obtain ⟨tokens, isLeft, dead⟩ := dead_text notLiteral
  refine ⟨_, written_join connective .symbol isLeft (written_print .operand second), ?_⟩
  intro rest depth pred _ _ isParsed
  rw [append_assoc] at isParsed
  have same := congrArg List.length (dead.left_eq isParsed).1
  simp only [cons_append, length_cons, length_append] at same
  omega

theorem Misread.group (balanced : Balanced tokens) (misread : Misread expression tokens) :
    Misread expression (.opening :: (tokens ++ [.closing])) := by
  intro rest depth pred stops enough isParsed
  rw [group_append] at enough isParsed
  have shorter : (tokens ++ .closing :: rest).length + 1 < depth := by simpa using enough
  have long : (tokens ++ .closing :: rest).length < depth := Nat.lt_of_succ_lt shorter
  cases isPredicate : predicate (.opening :: (tokens ++ .closing :: rest)) with
  | none =>
    -- the group is read by the rule for parenthesised predicates, one level down
    cases depth with
    | zero => contradiction
    | succ depth =>
      have isInner : parenthesisedPredicate depth (tokens ++ .closing :: rest) =
          some (pred, .closing :: rest) := by
        simp only [parenthesisedPredicate, isPredicate] at isParsed
        split at isParsed
        · rename_i inner innerLeft isFound
          cases isParsed
          exact isFound
        · contradiction
      exact misread (.closing :: rest) depth pred trivial (Nat.lt_of_succ_lt_succ shorter) isInner
  | some parsed =>
    obtain ⟨found, foundLeft⟩ := parsed
    obtain ⟨isLeft, isInner⟩ := predicate_group balanced isPredicate
    rw [isLeft] at isPredicate
    obtain ⟨shallower, rfl⟩ := Nat.exists_eq_succ_of_ne_zero (Nat.ne_zero_of_lt long)
    have isWhole := @parenthesisedPredicate_of_stops _ _ _ _ shallower isPredicate stops
    cases isWhole.symm.trans isParsed
    apply misread (.closing :: rest) (shallower + 1) pred trivial long
    exact parenthesisedPredicate_of_stops isInner trivial

theorem Predicate.isMatch_congr {first second : α → Bool} (pred : Predicate α)
    (same : ∀ comparison ∈ pred.comparisons, first comparison = second comparison) :
    pred.isMatch first = pred.isMatch second := by
  induction pred with
  | compare comparison => exact same comparison mem_cons_self
  | and lhs rhs left right | or lhs rhs left right =>
    simp only [isMatch, left fun test isTest => same test (mem_append_left _ isTest),
      right fun test isTest => same test (mem_append_right _ isTest)]
  | not pred ih => simp only [isMatch, ih same]
  | bool => rfl

theorem Expression.isMatch_congr {first second : α → Bool} (expression : Expression α)
    (same : ∀ comparison ∈ expression.comparisons, first comparison = second comparison) :
    expression.isMatch first = expression.isMatch second := by
  induction expression with
  | comparison test => exact same test mem_cons_self
  | not operand ih => simp only [isMatch, ih same]
  | and lhs rhs left right | or lhs rhs left right =>
    simp only [isMatch, left fun test isTest => same test (mem_append_left _ isTest),
      right fun test isTest => same test (mem_append_right _ isTest)]

theorem exists_common_context {first second : List α} (apart : first.Disjoint second)
    (firstContext secondContext : α → Bool) :
    ∃ context : α → Bool, (∀ test ∈ first, context test = firstContext test) ∧
      ∀ test ∈ second, context test = secondContext test := by
  classical
  refine ⟨fun test => if test ∈ first then firstContext test else secondContext test, ?_, ?_⟩
  · intro test isFirst
    simp [isFirst]
  · intro test isSecond
    have notFirst : test ∉ first := fun isFirst => apart isFirst isSecond
    simp [notFirst]

theorem exists_context (expression : Expression α) (distinct : expression.comparisons.Nodup)
    (value : Bool) : ∃ context, expression.isMatch context = value := by
  induction expression generalizing value with
  | comparison test => exact ⟨fun _ => value, rfl⟩
  | not operand ih =>
    obtain ⟨context, isMatch⟩ := ih distinct (!value)
    exact ⟨context, by simp [Expression.isMatch, isMatch]⟩
  | and lhs rhs left right | or lhs rhs left right =>
    obtain ⟨leftDistinct, rightDistinct, apart⟩ := nodup_append'.mp distinct
    obtain ⟨leftContext, isLeft⟩ := left leftDistinct value
    obtain ⟨rightContext, isRight⟩ := right rightDistinct value
    obtain ⟨context, sameLeft, sameRight⟩ :=
      exists_common_context apart leftContext rightContext
    refine ⟨context, ?_⟩
    simp only [Expression.isMatch, lhs.isMatch_congr sameLeft, rhs.isMatch_congr sameRight, isLeft,
      isRight, Bool.and_self, Bool.or_self]

/-- With this value the second operand decides. -/
def Connective.neutral : Connective → Bool
  | .and => true
  | .or => false

variable {first second : Expression α}

theorem not_means_join (distinct : first.comparisons.Nodup)
    (apart : first.comparisons.Disjoint second.comparisons) (isLeft : Means lhs first)
    (made : rhs.comparisons ⊆ second.comparisons) (notRight : ¬Means rhs second) :
    ¬Means (connective.join lhs rhs) (connective.tree first second) := by
  intro means
  apply notRight
  intro rightContext
  obtain ⟨leftContext, isNeutral⟩ := exists_context first distinct connective.neutral
  obtain ⟨context, sameLeft, sameRight⟩ := exists_common_context apart leftContext rightContext
  have isMatch := means context
  have firstNeutral : first.isMatch context = connective.neutral := by
    rw [first.isMatch_congr sameLeft, isNeutral]
  have sameRhs : rhs.isMatch context = rhs.isMatch rightContext :=
    rhs.isMatch_congr fun test isTest => sameRight test (made isTest)
  have sameSecond : second.isMatch context = second.isMatch rightContext :=
    second.isMatch_congr sameRight
  cases connective with
  | and =>
    simpa [Connective.join, Connective.tree, Predicate.isMatch, Expression.isMatch,
      isLeft context, firstNeutral, Connective.neutral, sameRhs, sameSecond] using isMatch
  | or =>
    simpa [Connective.join, Connective.tree, Predicate.isMatch, Expression.isMatch,
      isLeft context, firstNeutral, Connective.neutral, sameRhs, sameSecond] using isMatch

theorem Takes.comparisons_subset {place : Place} (written : Written place expression tokens)
    (takes : Takes (tokens ++ rest) pred rest) : pred.comparisons ⊆ expression.comparisons := by
  obtain ⟨taken, isTaken, _, _, made⟩ := takes
  have same : tokens = taken := append_cancel_right isTaken
  rw [← written.comparisonsIn, same]
  exact made

theorem misread_join_right
    (distinct : (connective.tree first second).comparisons.Nodup) (literal : first.Literal)
    (isRight : Written .disjunction second tokens) (misread : Misread second tokens) :
    ∃ tokens, Written .disjunction (connective.tree first second) tokens ∧
      Misread (connective.tree first second) tokens := by
  have firstDistinct : first.comparisons.Nodup ∧
      first.comparisons.Disjoint second.comparisons := by
    cases connective <;>
      exact ⟨(nodup_append'.mp distinct).1, (nodup_append'.mp distinct).2.2⟩
  have isLeft : Written .operand first (.opening :: (first.print .disjunction ++ [.closing])) :=
    (written_print .disjunction first).group .operand
  have isGroup := isRight.group .operand
  refine ⟨_, written_join connective .symbol isLeft isGroup, ?_⟩
  intro rest depth pred stops enough isParsed
  rw [append_assoc] at isParsed
  obtain ⟨lhs, isLhs, means⟩ := predicate_literal isLeft literal (fun _ same => absurd same nofun)
    (connective.token .symbol :: (.opening :: (tokens ++ [.closing])) ++ rest)
  cases depth with
  | zero => exact absurd isParsed nofun
  | succ depth =>
    cases isRhs : parenthesisedPredicate depth ((.opening :: (tokens ++ [.closing])) ++ rest) with
    | none =>
      have stopped := parenthesisedPredicate_join_none connective .symbol isLhs isRhs
      exact (some_ne_of_cons (stopped.symm.trans isParsed)).elim
    | some parsed =>
      obtain ⟨rhs, left⟩ := parsed
      have joined := parenthesisedPredicate_join connective .symbol isLhs isRhs
      cases joined.symm.trans isParsed
      have shorter : (Token.opening :: (tokens ++ [Token.closing]) ++ rest).length < depth := by
        simp only [length_append, length_cons] at enough ⊢
        omega
      have notMeans := misread.group isRight.balanced rest depth rhs stops shorter isRhs
      exact not_means_join connective firstDistinct.1 firstDistinct.2 means
        ((takes_parenthesisedPredicate isRhs).comparisons_subset isGroup) notMeans

theorem misread_or_and {comparison : α} {first second : Expression α}
    (distinct : (Expression.or (.comparison comparison) (.and first second)).comparisons.Nodup)
    (literal : first.Literal) (leaning : second.RightLeaning) :
    ∃ tokens, Written .disjunction (.or (.comparison comparison) (.and first second)) tokens ∧
      Misread (.or (.comparison comparison) (.and first second)) tokens := by
  have isFirst : Written .conjunction first
      (.opening :: (first.print .disjunction ++ [.closing])) :=
    (written_print .disjunction first).group .conjunction
  have isSecond := written_print .operand second
  refine ⟨_, .or .symbol (.comparison .disjunction comparison)
    (.and .symbol nofun isFirst isSecond), ?_⟩
  intro rest depth pred stops enough isParsed
  obtain ⟨middle, isMiddle, middleMeans⟩ := predicate_literal isFirst literal
    (fun _ same => absurd same nofun) (.and .symbol :: second.print .operand ++ rest)
  have isLhs := predicate_bare_of_some .or .symbol comparison isMiddle
  cases depth with
  | zero => exact absurd isParsed nofun
  | succ depth =>
    have shorter : (second.print .operand ++ rest).length < depth := by
      simp only [length_append, length_cons] at enough ⊢
      omega
    obtain ⟨last, isLast, lastMeans⟩ := (isSecond.reads leaning stops).whole depth shorter
    have joined := parenthesisedPredicate_join .and .symbol isLhs isLast
    simp only [append_assoc, cons_append, nil_append] at isParsed joined
    cases joined.symm.trans isParsed
    -- the comparison holds and the last operand does not
    obtain ⟨notBoth, bothDistinct⟩ :
        comparison ∉ first.comparisons ++ second.comparisons ∧
          (first.comparisons ++ second.comparisons).Nodup :=
      List.nodup_cons.mp distinct
    have secondDistinct : second.comparisons.Nodup := (nodup_append'.mp bothDistinct).2.1
    obtain ⟨secondContext, secondFalse⟩ := exists_context second secondDistinct false
    have apart : [comparison].Disjoint second.comparisons := by
      intro test isComparison isTest
      cases List.mem_singleton.mp isComparison
      exact notBoth (mem_append_right _ isTest)
    obtain ⟨context, isTrue, isSecondContext⟩ :=
      exists_common_context apart (fun _ => true) secondContext
    intro means
    have isMatch := means context
    have holds : context comparison = true := isTrue comparison mem_cons_self
    have fails : second.isMatch context = false := by
      rw [second.isMatch_congr isSecondContext, secondFalse]
    simp [Connective.join, Predicate.isMatch, Expression.isMatch, lastMeans context, holds,
      fails] at isMatch

theorem exists_misread (distinct : expression.comparisons.Nodup)
    (notLeaning : ¬expression.RightLeaning) :
    ∃ tokens, Written .disjunction expression tokens ∧ Misread expression tokens := by
  induction expression with
  | comparison test => exact absurd trivial notLeaning
  | not operand => exact misread_not notLeaning
  | and first second _ right =>
    by_cases literal : first.Literal
    · have notRight : ¬second.RightLeaning := fun leaning => notLeaning ⟨literal, leaning⟩
      obtain ⟨tokens, isRight, misread⟩ :=
        right (nodup_append'.mp distinct).2.1 notRight
      exact misread_join_right .and distinct literal isRight misread
    · exact misread_join_dead .and second literal
  | or first second _ right =>
    by_cases literal : first.Literal
    · by_cases leaning : second.RightLeaning
      · have both : ∃ comparison lhs rhs,
            first = .comparison comparison ∧ second = .and lhs rhs := by
          by_contra neither
          apply notLeaning
          refine rightLeaning_or.mpr ⟨⟨literal, leaning⟩, ?_⟩
          exact fun comparison lhs rhs isBoth => neither ⟨comparison, lhs, rhs, isBoth⟩
        obtain ⟨comparison, lhs, rhs, rfl, rfl⟩ := both
        exact misread_or_and distinct leaning.1 leaning.2
      · obtain ⟨tokens, isRight, misread⟩ :=
          right (nodup_append'.mp distinct).2.1 leaning
        exact misread_join_right .or distinct literal isRight misread
    · exact misread_join_dead .or second literal

/-- An expression of distinct comparisons is read as it is meant just if it leans to the right. -/
theorem readAsMeant_iff_rightLeaning (expression : Expression α) :
    (expression.RightLeaning → ReadAsMeant expression) ∧
      (expression.comparisons.Nodup → (ReadAsMeant expression ↔ expression.RightLeaning)) := by
  have reads : expression.RightLeaning → ReadAsMeant expression := by
    intro leaning tokens written
    have isRead := (@Written.reads _ _ _ [] _ written leaning trivial).whole (tokens.length + 1)
      (by simp)
    rw [append_nil] at isRead
    obtain ⟨pred, isParsed, means⟩ := isRead
    exact ⟨pred, by simp [parse, isParsed], means⟩
  refine ⟨reads, fun distinct => ⟨?_, reads⟩⟩
  intro asMeant
  by_contra notLeaning
  obtain ⟨tokens, written, misread⟩ := exists_misread distinct notLeaning
  obtain ⟨pred, isParse, means⟩ := asMeant tokens written
  have isParsed : parenthesisedPredicate (tokens.length + 1) tokens = some (pred, []) := by
    unfold parse at isParse
    split at isParse
    · rename_i found isFound
      cases isParse
      exact isFound
    · exact absurd isParse nofun
  have appended := misread [] (tokens.length + 1) pred trivial (by simp)
  rw [append_nil] at appended
  exact appended isParsed means

/-- `a and b or c` is read as `a and (b or c)`. -/
theorem and_or_regrouped :
    ¬ReadAsMeant (Expression.or (.and (.comparison 1) (.comparison 2)) (.comparison 3)) := by
  intro asMeant
  obtain ⟨pred, isParse, means⟩ := asMeant _
    (written_print .disjunction (.or (.and (.comparison 1) (.comparison 2)) (.comparison 3)))
  have isRegrouped : pred = .and (.compare 1) (.or (.compare 2) (.compare 3)) := by
    have regrouped : parse (Expression.print .disjunction
        (.or (.and (.comparison 1) (.comparison 2)) (.comparison 3))) =
          some (.and (.compare 1) (.or (.compare 2) (.compare 3))) := by
      decide
    exact Option.some.inj (isParse.symm.trans regrouped)
  subst isRegrouped
  exact absurd (means fun test => test == 3) (by decide)

end Cyphesis.EntityFilter
