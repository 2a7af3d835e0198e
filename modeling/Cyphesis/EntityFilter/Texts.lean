import Cyphesis.EntityFilter.Parser

/-!
# Logical expressions and their texts

Trees of logical operators over comparisons, the texts that stand for them by the usual precedence,
and those whose texts are read as they are meant.
-/

namespace Cyphesis.EntityFilter

universe u

variable {α : Type u}

/-- A filter as a tree of comparisons and connectives. -/
inductive Expression (α : Type u) where
  | comparison (comparison : α)
  | not (operand : Expression α)
  | and (lhs rhs : Expression α)
  | or (lhs rhs : Expression α)
  deriving DecidableEq

/-- A place in a text without parentheses. -/
inductive Place where
  | disjunction
  | conjunction
  | operand
  deriving DecidableEq

namespace Expression

def isMatch (context : α → Bool) : Expression α → Bool
  | .comparison test => context test
  | .not operand => !operand.isMatch context
  | .and lhs rhs => lhs.isMatch context && rhs.isMatch context
  | .or lhs rhs => lhs.isMatch context || rhs.isMatch context

/-- The comparisons of a filter, from left to right. -/
def comparisons : Expression α → List α
  | .comparison test => [test]
  | .not operand => operand.comparisons
  | .and lhs rhs => lhs.comparisons ++ rhs.comparisons
  | .or lhs rhs => lhs.comparisons ++ rhs.comparisons

/-- The text goes into parentheses where it must. -/
def enclose (bare : Bool) (tokens : List (Token α)) : List (Token α) :=
  if bare then tokens else .opening :: (tokens ++ [.closing])

/-- Text with the fewest parentheses. -/
def print : Place → Expression α → List (Token α)
  | _, .comparison test => [.comparison test]
  | _, .not operand => .not .word :: operand.print .operand
  | place, .and lhs rhs =>
    enclose (place ≠ .operand) (lhs.print .conjunction ++ .and .word :: rhs.print .operand)
  | place, .or lhs rhs =>
    enclose (place = .disjunction) (lhs.print .disjunction ++ .or .word :: rhs.print .conjunction)

end Expression

/-- Texts of an expression at a place. -/
inductive Written : Place → Expression α → List (Token α) → Prop where
  | comparison (place : Place) (comparison : α) :
      Written place (.comparison comparison) [.comparison comparison]
  | not (place : Place) (spelling : Spelling) {operand : Expression α} {tokens : List (Token α)}
      (isOperand : Written .operand operand tokens) :
      Written place (.not operand) (.not spelling :: tokens)
  | and {place : Place} (spelling : Spelling) {lhs rhs : Expression α}
      {left right : List (Token α)} (isPlace : place ≠ .operand)
      (isLeft : Written .conjunction lhs left) (isRight : Written .operand rhs right) :
      Written place (.and lhs rhs) (left ++ .and spelling :: right)
  | or (spelling : Spelling) {lhs rhs : Expression α} {left right : List (Token α)}
      (isLeft : Written .disjunction lhs left) (isRight : Written .conjunction rhs right) :
      Written .disjunction (.or lhs rhs) (left ++ .or spelling :: right)
  | group (place : Place) {expression : Expression α} {tokens : List (Token α)}
      (isInner : Written .disjunction expression tokens) :
      Written place expression (.opening :: (tokens ++ [.closing]))

theorem written_print (place : Place) (expression : Expression α) :
    Written place expression (expression.print place) := by
  induction expression generalizing place with
  | comparison comparison => exact .comparison place comparison
  | not operand ih => exact .not place .word (ih .operand)
  | and lhs rhs isLhs isRhs =>
    have bare : ∀ other ≠ Place.operand, Written other (.and lhs rhs)
        (lhs.print .conjunction ++ .and .word :: rhs.print .operand) :=
      fun other isPlace => .and .word isPlace (isLhs .conjunction) (isRhs .operand)
    by_cases isPlace : place = .operand
    · simpa [Expression.print, Expression.enclose, isPlace] using
        (bare .disjunction nofun).group .operand
    · simpa [Expression.print, Expression.enclose, isPlace] using bare place isPlace
  | or lhs rhs isLhs isRhs =>
    have bare : Written .disjunction (.or lhs rhs)
        (lhs.print .disjunction ++ .or .word :: rhs.print .conjunction) :=
      .or .word (isLhs .disjunction) (isRhs .conjunction)
    by_cases isPlace : place = .disjunction
    · subst isPlace
      simpa [Expression.print, Expression.enclose] using bare
    · simpa [Expression.print, Expression.enclose, isPlace] using bare.group place

/-- The predicate and the expression agree in every context. -/
def Means (pred : Predicate α) (expression : Expression α) : Prop :=
  ∀ context, pred.isMatch context = expression.isMatch context

/-- Every text is read with its meaning. -/
def ReadAsMeant (expression : Expression α) : Prop :=
  ∀ tokens, Written .disjunction expression tokens →
    ∃ pred, parse tokens = some pred ∧ Means pred expression

namespace Expression

/-- A comparison with any number of negations. -/
def Literal : Expression α → Prop
  | .comparison _ => True
  | .not operand => operand.Literal
  | _ => False

/-- Binary operands are right ones. -/
def RightLeaning : Expression α → Prop
  | .comparison _ => True
  | .not operand => operand.Literal
  | .and lhs rhs => lhs.Literal ∧ rhs.RightLeaning
  | .or (.comparison _) (.and _ _) => False
  | .or lhs rhs => lhs.Literal ∧ rhs.RightLeaning

end Expression

variable {place : Place}

variable {expression : Expression α} {tokens : List (Token α)}

theorem Written.balanced (written : Written place expression tokens) : Balanced tokens := by
  induction written with
  | comparison place comparison => exact balanced_nil.comparison comparison
  | not place spelling isOperand ih => exact ih.not spelling
  | and spelling isPlace isLeft isRight left right => exact left.append (right.and spelling)
  | or spelling isLeft isRight left right => exact left.append (right.or spelling)
  | group place isInner ih => exact ih.group

theorem Written.comparisonsIn
    (written : Written place expression tokens) :
    comparisonsIn tokens = expression.comparisons := by
  induction written with
  | comparison place comparison => rfl
  | not place spelling isOperand ih => exact ih
  | and spelling isPlace isLeft isRight left right =>
    simp only [comparisonsIn_append, EntityFilter.comparisonsIn, left, right,
      Expression.comparisons]
  | or spelling isLeft isRight left right =>
    simp only [comparisonsIn_append, EntityFilter.comparisonsIn, left, right,
      Expression.comparisons]
  | group place isInner ih =>
    simp only [EntityFilter.comparisonsIn, comparisonsIn_append, ih,
      List.append_nil]

theorem Written.of_operand
    (written : Written .operand expression tokens) (place : Place) :
    Written place expression tokens := by
  cases written with
  | comparison _ comparison => exact .comparison place comparison
  | not _ spelling isOperand => exact .not place spelling isOperand
  | and spelling isPlace isLeft isRight => exact absurd rfl isPlace
  | group _ isInner => exact .group place isInner

theorem Written.operand_of_conjunction
    (written : Written .conjunction expression tokens)
    (notAnd : ∀ lhs rhs, expression ≠ .and lhs rhs) : Written .operand expression tokens := by
  cases written with
  | comparison _ comparison => exact .comparison .operand comparison
  | not _ spelling isOperand => exact .not .operand spelling isOperand
  | and spelling isPlace isLeft isRight => exact absurd rfl (notAnd _ _)
  | group _ isInner => exact .group .operand isInner

theorem Written.eq_comparison {comparison : α}
    (written : Written place expression [.comparison comparison]) :
    expression = .comparison comparison := by
  generalize isText : [Token.comparison comparison] = tokens at written
  cases written with
  | comparison _ other =>
    cases isText
    rfl
  | not _ spelling _ => exact absurd isText nofun
  | @and _ spelling _ _ left right =>
    have isMember : Token.and spelling ∈ [Token.comparison comparison] := by simp [isText]
    simp at isMember
  | @or spelling _ _ left right =>
    have isMember : Token.or spelling ∈ [Token.comparison comparison] := by simp [isText]
    simp at isMember
  | group _ _ => exact absurd isText nofun

theorem predicate_literal
    (written : Written place expression tokens) (literal : expression.Literal)
    (notBare : ∀ comparison, tokens ≠ [.comparison comparison]) (rest : List (Token α)) :
    ∃ pred, predicate (tokens ++ rest) = some (pred, rest) ∧ Means pred expression := by
  induction written generalizing rest with
  | comparison place comparison => exact absurd rfl (notBare comparison)
  | @not place spelling operand tokens isOperand ih =>
    by_cases bare : ∃ comparison, tokens = [.comparison comparison]
    · obtain ⟨comparison, rfl⟩ := bare
      cases isOperand.eq_comparison
      refine ⟨.not (.compare comparison), ?_, fun _ => rfl⟩
      simp [predicate, comparerPredicate]
    · obtain ⟨pred, isParsed, means⟩ :=
        ih literal (fun comparison same => bare ⟨comparison, same⟩) rest
      refine ⟨.not pred, ?_, ?_⟩
      · have noComparison : comparerPredicate (tokens ++ rest) = none := by
          cases isOperand with
          | comparison _ comparison => exact absurd ⟨comparison, rfl⟩ bare
          | not _ _ _ => rfl
          | and _ isPlace _ _ => exact absurd rfl isPlace
          | group _ _ => rfl
        simp [predicate, noComparison, isParsed]
      · intro context
        simp [Predicate.isMatch, Expression.isMatch, means context]
  | and spelling isPlace isLeft isRight => exact absurd literal id
  | or spelling isLeft isRight => exact absurd literal id
  | @group place expression tokens isInner ih =>
    have assoc : (.opening :: (tokens ++ [.closing])) ++ rest =
        .opening :: (tokens ++ .closing :: rest) := by
      simp
    rw [assoc]
    by_cases bare : ∃ comparison, tokens = [.comparison comparison]
    · obtain ⟨comparison, rfl⟩ := bare
      refine ⟨.compare comparison, ?_, ?_⟩
      · simp [predicate]
      · cases isInner.eq_comparison
        exact fun _ => rfl
    · obtain ⟨pred, isParsed, means⟩ := ih literal
        (fun comparison same => bare ⟨comparison, same⟩) (.closing :: rest)
      exact ⟨pred, by simp [predicate, isParsed], means⟩

end Cyphesis.EntityFilter
