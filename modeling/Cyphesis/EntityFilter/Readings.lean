import Cyphesis.EntityFilter.Texts

/-!
# Texts that are read as meant

Only the rule for parenthesised predicates goes on after anything but a bare comparison.
-/

namespace Cyphesis.EntityFilter

universe u

variable {α : Type u} {expression : Expression α} {tokens rest left : List (Token α)}
  {pred lhs rhs : Predicate α} {depth : Nat}

/-- The end of the text, or of a group. -/
def Stops : List (Token α) → Prop
  | [] => True
  | .closing :: _ => True
  | _ => False

theorem predicate_comparison (comparison : α) (stops : Stops rest) :
    predicate (.comparison comparison :: rest) = some (.compare comparison, rest) := by
  cases rest with
  | nil => rfl
  | cons token more =>
    cases token with
    | closing => rfl
    | _ => exact absurd stops id

theorem parenthesisedPredicate_of_stops (isParsed : predicate tokens = some (pred, rest))
    (stops : Stops rest) : parenthesisedPredicate (depth + 1) tokens = some (pred, rest) := by
  cases rest with
  | nil => simp [parenthesisedPredicate, isParsed]
  | cons token more =>
    cases token with
    | closing => simp [parenthesisedPredicate, isParsed]
    | _ => exact absurd stops id

theorem parenthesisedPredicate_group (notParsed : predicate (.opening :: rest) = none)
    (isInner : parenthesisedPredicate depth rest = some (pred, .closing :: left)) :
    parenthesisedPredicate (depth + 1) (.opening :: rest) = some (pred, left) := by
  simp [parenthesisedPredicate, notParsed, isInner]

theorem exists_opening_of_refused (refused : predicate tokens = none)
    (isParsed : parenthesisedPredicate depth tokens = some (pred, left)) :
    ∃ rest shallower, tokens = .opening :: rest ∧
      parenthesisedPredicate shallower rest = some (pred, .closing :: left) := by
  unfold parenthesisedPredicate at isParsed
  split at isParsed
  · exact absurd isParsed nofun
  · rw [refused] at isParsed
    dsimp only at isParsed
    split at isParsed
    · split at isParsed
      · cases isParsed
        exact ⟨_, _, rfl, by assumption⟩
      · exact absurd isParsed nofun
    · exact absurd isParsed nofun

theorem some_ne_of_cons {token : Token α} {more : List (Token α)}
    (same : some (lhs, token :: (more ++ rest)) = some (pred, rest)) : False := by
  have sameLength := congrArg List.length (Prod.mk.inj (Option.some.inj same)).2
  simp only [List.length_cons, List.length_append] at sameLength
  omega

theorem group_append (tokens rest : List (Token α)) :
    (.opening :: (tokens ++ [.closing])) ++ rest = .opening :: (tokens ++ .closing :: rest) := by
  simp

theorem predicate_group (balanced : Balanced tokens)
    (isParsed : predicate (.opening :: (tokens ++ .closing :: rest)) = some (pred, left)) :
    left = rest ∧ predicate (tokens ++ .closing :: rest) = some (pred, .closing :: rest) := by
  rw [predicate] at isParsed
  split at isParsed
  · rename_i inner innerLeft isInner
    cases isParsed
    obtain ⟨taken, isTaken, _, takenBalanced, _⟩ := takes_predicate isInner
    have same := balanced.eq_of_append_closing takenBalanced isTaken
    subst same
    exact ⟨rfl, isInner⟩
  · contradiction

/-- Read whole, and with its meaning. -/
structure Reads (expression : Expression α) (tokens rest : List (Token α)) : Prop where
  whole : ∀ depth, (tokens ++ rest).length < depth →
    ∃ pred, parenthesisedPredicate depth (tokens ++ rest) = some (pred, rest) ∧
      Means pred expression
  part : ∀ pred, predicate (tokens ++ rest) = some (pred, rest) → Means pred expression

theorem Reads.of_predicate (isParsed : predicate (tokens ++ rest) = some (pred, rest))
    (means : Means pred expression) (stops : Stops rest) : Reads expression tokens rest where
  whole depth enough := by
    cases depth with
    | zero => exact absurd enough (Nat.not_lt_zero _)
    | succ depth => exact ⟨pred, parenthesisedPredicate_of_stops isParsed stops, means⟩
  part other isOther := by
    cases isParsed.symm.trans isOther
    exact means

theorem reads_literal {place : Place} (written : Written place expression tokens)
    (literal : expression.Literal) (stops : Stops rest) : Reads expression tokens rest := by
  by_cases bare : ∃ comparison, tokens = [.comparison comparison]
  · obtain ⟨comparison, rfl⟩ := bare
    cases written.eq_comparison
    exact .of_predicate (predicate_comparison comparison stops) (fun _ => rfl) stops
  · obtain ⟨pred, isParsed, means⟩ :=
      predicate_literal written literal (fun comparison same => bare ⟨comparison, same⟩) rest
    exact .of_predicate isParsed means stops

theorem Reads.group (balanced : Balanced tokens)
    (reads : Reads expression tokens (.closing :: rest)) (stops : Stops rest) :
    Reads expression (.opening :: (tokens ++ [.closing])) rest := by
  constructor
  · intro depth enough
    rw [group_append] at enough ⊢
    cases depth with
    | zero => exact absurd enough (Nat.not_lt_zero _)
    | succ depth =>
      cases isParsed : predicate (.opening :: (tokens ++ .closing :: rest)) with
      | none =>
        have shorter : (tokens ++ .closing :: rest).length < depth := by
          simpa using Nat.lt_of_succ_lt_succ enough
        obtain ⟨pred, isInner, means⟩ := reads.whole depth shorter
        exact ⟨pred, parenthesisedPredicate_group isParsed isInner, means⟩
      | some parsed =>
        obtain ⟨pred, left⟩ := parsed
        obtain ⟨rfl, isInner⟩ := predicate_group balanced isParsed
        exact ⟨pred, parenthesisedPredicate_of_stops isParsed stops, reads.part pred isInner⟩
  · intro pred isParsed
    rw [group_append] at isParsed
    exact reads.part pred (predicate_group balanced isParsed).2

theorem predicate_operand (written : Written .operand expression tokens)
    (leaning : expression.RightLeaning) (stops : Stops rest)
    (isParsed : predicate (tokens ++ rest) = some (pred, left)) : left = rest := by
  cases written with
  | comparison _ comparison =>
    cases (predicate_comparison comparison stops).symm.trans isParsed
    rfl
  | not _ spelling isOperand =>
    obtain ⟨other, isOther, _⟩ := predicate_literal (.not .operand spelling isOperand) leaning
      (fun comparison same => absurd same nofun) rest
    cases isOther.symm.trans isParsed
    rfl
  | and spelling isPlace isLeft isRight => exact absurd rfl isPlace
  | group _ isInner =>
    rw [group_append] at isParsed
    exact (predicate_group isInner.balanced isParsed).1

/-- The two binary operators. -/
inductive Connective where
  | and
  | or

namespace Connective

def token (spelling : Spelling) : Connective → Token α
  | and => .and spelling
  | or => .or spelling

def join (lhs rhs : Predicate α) : Connective → Predicate α
  | and => .and lhs rhs
  | or => .or lhs rhs

def tree (lhs rhs : Expression α) : Connective → Expression α
  | and => .and lhs rhs
  | or => .or lhs rhs

end Connective

variable (connective : Connective) (spelling : Spelling)

theorem predicate_bare_of_some (comparison : α) (isRight : predicate rest = some (rhs, left)) :
    predicate (.comparison comparison :: connective.token spelling :: rest) =
      some (connective.join (.compare comparison) rhs, left) := by
  cases connective <;> simp [Connective.token, Connective.join, predicate, isRight]

theorem predicate_bare_of_none (comparison : α) (notRight : predicate rest = none) :
    predicate (.comparison comparison :: connective.token spelling :: rest) =
      some (.compare comparison, connective.token spelling :: rest) := by
  cases connective <;> simp [Connective.token, predicate, notRight]

section

variable (isLeft : predicate tokens = some (lhs, connective.token spelling :: rest))

include isLeft

theorem parenthesisedPredicate_join
    (isRight : parenthesisedPredicate depth rest = some (rhs, left)) :
    parenthesisedPredicate (depth + 1) tokens = some (connective.join lhs rhs, left) := by
  cases connective <;>
    simp [Connective.token, Connective.join, parenthesisedPredicate] at isLeft ⊢ <;>
    simp [isLeft, isRight]

theorem parenthesisedPredicate_join_none
    (notRight : parenthesisedPredicate depth rest = none) :
    parenthesisedPredicate (depth + 1) tokens = some (lhs, connective.token spelling :: rest) := by
  cases connective <;>
    simp [Connective.token, parenthesisedPredicate] at isLeft ⊢ <;>
    simp [isLeft, notRight]

end

variable {first second : Expression α}

theorem Means.join (isLeft : Means lhs first)
    (isRight : Means rhs second) :
    Means (connective.join lhs rhs) (connective.tree first second) := by
  intro context
  cases connective <;>
    simp only [Connective.join, Connective.tree, Predicate.isMatch, Expression.isMatch,
      isLeft context, isRight context]

variable {right : List (Token α)}

theorem Reads.join_closed
    (isLeft : predicate (tokens ++ (connective.token spelling :: right ++ rest)) =
      some (lhs, connective.token spelling :: right ++ rest))
    (means : Means lhs first) (isRight : Reads second right rest) :
    Reads (connective.tree first second) (tokens ++ connective.token spelling :: right) rest := by
  have assoc : tokens ++ connective.token spelling :: right ++ rest =
      tokens ++ (connective.token spelling :: right ++ rest) :=
    List.append_assoc _ _ _
  constructor
  · intro depth enough
    rw [assoc] at enough ⊢
    cases depth with
    | zero => exact absurd enough (Nat.not_lt_zero _)
    | succ depth =>
      have shorter : (right ++ rest).length < depth := by
        simp only [List.length_append, List.length_cons] at enough ⊢
        omega
      obtain ⟨rhs, isParsed, rightMeans⟩ := isRight.whole depth shorter
      exact ⟨connective.join lhs rhs,
        parenthesisedPredicate_join connective spelling isLeft isParsed,
        means.join connective rightMeans⟩
  · intro pred isParsed
    rw [assoc] at isParsed
    exact (some_ne_of_cons (isLeft.symm.trans isParsed)).elim

theorem Reads.join_bare {second : Expression α} (comparison : α)
    (written : Written .operand second right) (leaning : second.RightLeaning)
    (isRight : Reads second right rest) (stops : Stops rest) :
    Reads (connective.tree (.comparison comparison) second)
      (.comparison comparison :: connective.token spelling :: right) rest := by
  cases isParsed : predicate (right ++ rest) with
  | none =>
    have isLeft := predicate_bare_of_none connective spelling comparison isParsed
    exact @Reads.join_closed _ [.comparison comparison] _ _ connective spelling
      (.comparison comparison) second right isLeft (fun _ => rfl) isRight
  | some parsed =>
    obtain ⟨rhs, left⟩ := parsed
    have isRest : left = rest := predicate_operand written leaning stops isParsed
    subst isRest
    have means : Means rhs second := isRight.part rhs isParsed
    have isWhole := predicate_bare_of_some connective spelling comparison isParsed
    exact .of_predicate isWhole
      (Means.join connective (fun _ => rfl : Means (.compare comparison) _) means) stops

theorem reads_join {place : Place} {first second : Expression α} {leftText right : List (Token α)}
    (isLeft : Written place first leftText) (literal : first.Literal)
    (isOperand : ∀ comparison, first = .comparison comparison → Written .operand second right)
    (leaning : second.RightLeaning) (isRight : Reads second right rest) (stops : Stops rest) :
    Reads (connective.tree first second) (leftText ++ connective.token spelling :: right) rest := by
  by_cases bare : ∃ comparison, leftText = [.comparison comparison]
  · obtain ⟨comparison, rfl⟩ := bare
    cases isLeft.eq_comparison
    exact Reads.join_bare connective spelling comparison (isOperand comparison rfl) leaning
      isRight stops
  · obtain ⟨lhs, isParsed, means⟩ := predicate_literal isLeft literal
      (fun comparison same => bare ⟨comparison, same⟩)
      (connective.token spelling :: right ++ rest)
    exact Reads.join_closed connective spelling isParsed means isRight

theorem rightLeaning_or :
    (Expression.or first second).RightLeaning ↔ (first.Literal ∧ second.RightLeaning) ∧
      ∀ comparison lhs rhs, ¬(first = .comparison comparison ∧ second = .and lhs rhs) := by
  cases first with
  | comparison test => cases second <;> simp [Expression.RightLeaning]
  | not operand => simp [Expression.RightLeaning]
  | and lhs rhs => simp [Expression.RightLeaning]
  | or lhs rhs => simp [Expression.RightLeaning]

theorem Written.reads {place : Place} (written : Written place expression tokens)
    (leaning : expression.RightLeaning) (stops : Stops rest) : Reads expression tokens rest := by
  induction written generalizing rest with
  | comparison place comparison =>
    exact reads_literal (.comparison place comparison) trivial stops
  | not place spelling isOperand =>
    exact reads_literal (.not place spelling isOperand) leaning stops
  | and spelling isPlace isLeft isRight _ right =>
    exact reads_join .and spelling isLeft leaning.1 (fun _ _ => isRight) leaning.2
      (right leaning.2 stops) stops
  | or spelling isLeft isRight _ right =>
    obtain ⟨⟨literal, rightLeaning⟩, notBoth⟩ := rightLeaning_or.mp leaning
    refine reads_join .or spelling isLeft literal ?_ rightLeaning (right rightLeaning stops) stops
    intro comparison isComparison
    apply isRight.operand_of_conjunction
    exact fun lhs rhs isAnd => notBoth comparison lhs rhs ⟨isComparison, isAnd⟩
  | group place isInner ih =>
    exact Reads.group isInner.balanced (ih leaning trivial) stops

end Cyphesis.EntityFilter
