import Mathlib.Tactic.Common

/-!
# The grammar of entity filters

The logical part of the grammar, over tokens; whole comparisons are tokens too. A rule recurses on
its right operand only. A name the provider factory does not know makes a predicate false.
-/

namespace Cyphesis.EntityFilter

open List

universe u

variable {α : Type u}

/-- The words `and`, `or` and `not`, or their symbols. -/
inductive Spelling where
  | word
  | symbol
  deriving DecidableEq

inductive Token (α : Type u) where
  | not (spelling : Spelling)
  | and (spelling : Spelling)
  | or (spelling : Spelling)
  | opening
  | closing
  | comparison (comparison : α)
  deriving DecidableEq

/-- What the grammar builds. -/
inductive Predicate (α : Type u) where
  | compare (comparison : α)
  | and (lhs rhs : Predicate α)
  | or (lhs rhs : Predicate α)
  | not (pred : Predicate α)
  /-- A `BoolPredicate` without a consumer. -/
  | bool
  deriving DecidableEq

namespace Predicate

/-- `isMatch`, from comparisons. -/
def isMatch (context : α → Bool) : Predicate α → Bool
  | compare comparison => context comparison
  | and lhs rhs => lhs.isMatch context && rhs.isMatch context
  | or lhs rhs => lhs.isMatch context || rhs.isMatch context
  | not pred => !pred.isMatch context
  | bool => false

end Predicate

/-- What is made, and what is left. -/
abbrev Parsed (α : Type u) : Type u :=
  Option (Predicate α × List (Token α))

/-- `comparer_predicate_g`. -/
def comparerPredicate : List (Token α) → Parsed α
  | .comparison comparison :: rest => some (.compare comparison, rest)
  | _ => none

/-- Last alternative of `predicate_g`. -/
def boolPredicate : List (Token α) → Parsed α
  | .not .word :: rest => some (.bool, rest)
  | .and .word :: rest => some (.bool, rest)
  | .or .word :: rest => some (.bool, rest)
  | _ => none

/-- `predicate_g`. -/
def predicate : List (Token α) → Parsed α
  | .not spelling :: rest =>
    match comparerPredicate rest with
    | some (pred, left) => some (.not pred, left)
    | none =>
      match predicate rest with
      | some (pred, left) => some (.not pred, left)
      | none => boolPredicate (.not spelling :: rest)
  | .comparison comparison :: .and spelling :: rest =>
    match predicate rest with
    | some (rhs, left) => some (.and (.compare comparison) rhs, left)
    | none => some (.compare comparison, .and spelling :: rest)
  | .comparison comparison :: .or spelling :: rest =>
    match predicate rest with
    | some (rhs, left) => some (.or (.compare comparison) rhs, left)
    | none => some (.compare comparison, .or spelling :: rest)
  | .comparison comparison :: rest => some (.compare comparison, rest)
  | .opening :: rest =>
    match predicate rest with
    | some (pred, .closing :: left) => some (pred, left)
    | _ => none
  | tokens => boolPredicate tokens

/-- `parenthesised_predicate_g`. -/
def parenthesisedPredicate : Nat → List (Token α) → Parsed α
  | 0, _ => none
  | depth + 1, tokens =>
    match predicate tokens with
    | some (lhs, .and spelling :: rest) =>
      match parenthesisedPredicate depth rest with
      | some (rhs, left) => some (.and lhs rhs, left)
      | none => some (lhs, .and spelling :: rest)
    | some (lhs, .or spelling :: rest) =>
      match parenthesisedPredicate depth rest with
      | some (rhs, left) => some (.or lhs rhs, left)
      | none => some (lhs, .or spelling :: rest)
    | some (lhs, left) => some (lhs, left)
    | none =>
      match tokens with
      | .opening :: rest =>
        match parenthesisedPredicate depth rest with
        | some (pred, .closing :: left) => some (pred, left)
        | _ => none
      | _ => none

/-- Constructor of `Filter`. -/
def parse (tokens : List (Token α)) : Option (Predicate α) :=
  match parenthesisedPredicate (tokens.length + 1) tokens with
  | some (pred, []) => some pred
  | _ => none

/-- What follows the first parenthesis too many. -/
def afterClosing : Nat → List (Token α) → Option (List (Token α))
  | _, [] => none
  | 0, .closing :: rest => some rest
  | depth + 1, .closing :: rest => afterClosing depth rest
  | depth, .opening :: rest => afterClosing (depth + 1) rest
  | depth, .not _ :: rest => afterClosing depth rest
  | depth, .and _ :: rest => afterClosing depth rest
  | depth, .or _ :: rest => afterClosing depth rest
  | depth, .comparison _ :: rest => afterClosing depth rest

/-- The tokens close all they open, and no more. -/
def Balanced (tokens : List (Token α)) : Prop :=
  ∀ depth rest, afterClosing depth (tokens ++ rest) = afterClosing depth rest

theorem balanced_nil : Balanced ([] : List (Token α)) :=
  fun _ _ => rfl

theorem Balanced.append {first second : List (Token α)} (begun : Balanced first)
    (ended : Balanced second) : Balanced (first ++ second) := by
  intro depth rest
  rw [append_assoc, begun, ended]

section

variable {tokens : List (Token α)} (balanced : Balanced tokens)

include balanced

variable (spelling : Spelling)

theorem Balanced.not : Balanced (.not spelling :: tokens) := by
  intro depth rest
  rw [cons_append, afterClosing, balanced]

theorem Balanced.and : Balanced (.and spelling :: tokens) := by
  intro depth rest
  rw [cons_append, afterClosing, balanced]

theorem Balanced.or : Balanced (.or spelling :: tokens) := by
  intro depth rest
  rw [cons_append, afterClosing, balanced]

theorem Balanced.comparison (comparison : α) : Balanced (.comparison comparison :: tokens) := by
  intro depth rest
  rw [cons_append, afterClosing, balanced]

theorem Balanced.group : Balanced (.opening :: (tokens ++ [.closing])) := by
  intro depth rest
  rw [cons_append, afterClosing, append_assoc, balanced]
  rfl

end

theorem Balanced.eq_of_append_closing {first second firstRest secondRest : List (Token α)}
    (balanced : Balanced first) (otherBalanced : Balanced second)
    (same : first ++ .closing :: firstRest = second ++ .closing :: secondRest) :
    firstRest = secondRest := by
  have ends : afterClosing 0 (first ++ .closing :: firstRest) =
      afterClosing 0 (second ++ .closing :: secondRest) := by
    rw [same]
  rw [balanced, otherBalanced] at ends
  exact Option.some.inj ends

/-- The comparisons a predicate is made of. -/
def Predicate.comparisons : Predicate α → List α
  | .compare comparison => [comparison]
  | .and lhs rhs => lhs.comparisons ++ rhs.comparisons
  | .or lhs rhs => lhs.comparisons ++ rhs.comparisons
  | .not pred => pred.comparisons
  | .bool => []

/-- The comparisons among the tokens. -/
def comparisonsIn : List (Token α) → List α
  | [] => []
  | .comparison comparison :: rest => comparison :: comparisonsIn rest
  | _ :: rest => comparisonsIn rest

theorem comparisonsIn_append (first second : List (Token α)) :
    comparisonsIn (first ++ second) = comparisonsIn first ++ comparisonsIn second := by
  induction first with
  | nil => rfl
  | cons token rest ih =>
    cases token <;> simp [comparisonsIn, ih]

/-- The rule has taken a balanced part. -/
def Takes (tokens : List (Token α)) (pred : Predicate α) (left : List (Token α)) : Prop :=
  ∃ taken, tokens = taken ++ left ∧ taken ≠ [] ∧ Balanced taken ∧
    pred.comparisons ⊆ comparisonsIn taken

theorem takes_comparison (comparison : α) (rest : List (Token α)) :
    Takes (.comparison comparison :: rest) (.compare comparison) rest :=
  ⟨[.comparison comparison], rfl, nofun, balanced_nil.comparison comparison, List.Subset.refl _⟩

section

variable {tokens left : List (Token α)} {pred : Predicate α}

theorem takes_boolPredicate
    (isParsed : boolPredicate tokens = some (pred, left)) : Takes tokens pred left := by
  unfold boolPredicate at isParsed
  split at isParsed
  · cases isParsed
    exact ⟨[.not .word], rfl, nofun, balanced_nil.not .word, nofun⟩
  · cases isParsed
    exact ⟨[.and .word], rfl, nofun, balanced_nil.and .word, nofun⟩
  · cases isParsed
    exact ⟨[.or .word], rfl, nofun, balanced_nil.or .word, nofun⟩
  · exact absurd isParsed nofun

theorem takes_comparerPredicate
    (isParsed : comparerPredicate tokens = some (pred, left)) : Takes tokens pred left := by
  unfold comparerPredicate at isParsed
  split at isParsed
  · cases isParsed
    exact takes_comparison _ _
  · exact absurd isParsed nofun

theorem Takes.not
    (takes : Takes tokens pred left) (spelling : Spelling) :
    Takes (.not spelling :: tokens) (.not pred) left := by
  obtain ⟨taken, rfl, _, balanced, made⟩ := takes
  exact ⟨.not spelling :: taken, rfl, nofun, balanced.not spelling, made⟩

end

theorem Takes.group {rest left : List (Token α)} {pred : Predicate α}
    (takes : Takes rest pred (.closing :: left)) : Takes (.opening :: rest) pred left := by
  obtain ⟨taken, rfl, _, balanced, made⟩ := takes
  refine ⟨.opening :: (taken ++ [.closing]), ?_, nofun, balanced.group, ?_⟩
  · simp
  · simp only [comparisonsIn, comparisonsIn_append]
    exact List.Subset.trans made (subset_append_left _ _)

section

variable {tokens rest left : List (Token α)} {lhs rhs : Predicate α} {spelling : Spelling}

theorem Takes.and (first : Takes tokens lhs (.and spelling :: rest))
    (second : Takes rest rhs left) : Takes tokens (.and lhs rhs) left := by
  obtain ⟨taken, rfl, nonempty, balanced, made⟩ := first
  obtain ⟨more, rfl, _, moreBalanced, moreMade⟩ := second
  refine ⟨taken ++ .and spelling :: more, by simp, by simp,
    balanced.append (moreBalanced.and _), ?_⟩
  simp only [comparisonsIn_append, comparisonsIn]
  exact List.append_subset.mpr ⟨List.Subset.trans made (subset_append_left _ _),
    List.Subset.trans moreMade (subset_append_right _ _)⟩

theorem Takes.or (first : Takes tokens lhs (.or spelling :: rest))
    (second : Takes rest rhs left) : Takes tokens (.or lhs rhs) left := by
  obtain ⟨taken, rfl, nonempty, balanced, made⟩ := first
  obtain ⟨more, rfl, _, moreBalanced, moreMade⟩ := second
  refine ⟨taken ++ .or spelling :: more, by simp, by simp, balanced.append (moreBalanced.or _), ?_⟩
  simp only [comparisonsIn_append, comparisonsIn]
  exact List.append_subset.mpr ⟨List.Subset.trans made (subset_append_left _ _),
    List.Subset.trans moreMade (subset_append_right _ _)⟩

end

section

variable {tokens left : List (Token α)} {pred : Predicate α}

theorem takes_predicate
    (isParsed : predicate tokens = some (pred, left)) : Takes tokens pred left := by
  fun_induction predicate tokens generalizing pred left with
  | case1 spelling rest inner innerLeft isComparison =>
    cases isParsed
    exact (takes_comparerPredicate isComparison).not spelling
  | case2 spelling rest noComparison inner innerLeft isInner ih =>
    cases isParsed
    exact (ih isInner).not spelling
  | case3 spelling rest noComparison noInner => exact takes_boolPredicate isParsed
  | case4 comparison spelling rest rhs rhsLeft isRhs ih =>
    cases isParsed
    exact (takes_comparison comparison _).and (ih isRhs)
  | case5 comparison spelling rest noRhs =>
    cases isParsed
    exact takes_comparison comparison _
  | case6 comparison spelling rest rhs rhsLeft isRhs ih =>
    cases isParsed
    exact (takes_comparison comparison _).or (ih isRhs)
  | case7 comparison spelling rest noRhs =>
    cases isParsed
    exact takes_comparison comparison _
  | case8 comparison rest notAnd notOr =>
    cases isParsed
    exact takes_comparison comparison rest
  | case9 rest inner innerLeft isInner ih =>
    cases isParsed
    exact (ih isInner).group
  | case10 rest noGroup => exact absurd isParsed nofun
  | case11 tokens notNot notAnd notOr notComparison notOpening =>
    exact takes_boolPredicate isParsed

theorem takes_parenthesisedPredicate {depth : Nat}
    (isParsed : parenthesisedPredicate depth tokens = some (pred, left)) :
    Takes tokens pred left := by
  fun_induction parenthesisedPredicate depth tokens generalizing pred left with
  | case1 => exact absurd isParsed nofun
  | case2 depth tokens lhs spelling rest isLhs rhs rhsLeft isRhs ih =>
    cases isParsed
    exact (takes_predicate isLhs).and (ih isRhs)
  | case3 depth tokens lhs spelling rest isLhs noRhs =>
    cases isParsed
    exact takes_predicate isLhs
  | case4 depth tokens lhs spelling rest isLhs rhs rhsLeft isRhs ih =>
    cases isParsed
    exact (takes_predicate isLhs).or (ih isRhs)
  | case5 depth tokens lhs spelling rest isLhs noRhs =>
    cases isParsed
    exact takes_predicate isLhs
  | case6 depth tokens lhs lhsLeft notAnd notOr isLhs =>
    cases isParsed
    exact takes_predicate isLhs
  | case7 depth rest inner innerLeft isInner noPredicate ih =>
    cases isParsed
    exact (ih isInner).group
  | case8 => exact absurd isParsed nofun
  | case9 => exact absurd isParsed nofun

end

end Cyphesis.EntityFilter
