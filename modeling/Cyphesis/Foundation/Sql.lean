import Mathlib.Data.List.Basic

/-!
# Lexing statement texts

A statement text is cut into words, symbols and string literals, in which a doubled quote stands for
one.
-/

namespace Cyphesis.Foundation.Sql

open List

inductive Token where
  | word (text : List Char)
  | literal (text : List Char)
  | symbol (character : Char)
  deriving DecidableEq

/-- Where the lexer is: in a word, in a literal, or between the two. -/
inductive Mode where
  | between
  | word (text : List Char)
  | literal (text : List Char)
  | quote (text : List Char)
  deriving DecidableEq

variable (character : Char)

def isBlank : Bool :=
  character == ' ' || character == '\n' || character == '\t'

def isWordCharacter : Bool :=
  character.isAlphanum || character == '_'

/-- No token is continued. -/
def start : List Token × Mode :=
  if isBlank character then ([], .between)
  else if character = '\'' then ([], .literal [])
  else if isWordCharacter character then ([], .word [character])
  else ([.symbol character], .between)

def step : Mode → Char → List Token × Mode
  | .between, character => start character
  | .word text, character =>
    if isWordCharacter character then ([], .word (text ++ [character]))
    else (.word text :: (start character).1, (start character).2)
  | .literal text, character =>
    if character = '\'' then ([], .quote text) else ([], .literal (text ++ [character]))
  | .quote text, character =>
    if character = '\'' then ([], .literal (text ++ ['\'']))
    else (.literal text :: (start character).1, (start character).2)

/-- Completed tokens, and the mode. -/
def scan (mode : Mode) : List Char → List Token × Mode
  | [] => ([], mode)
  | character :: rest =>
    ((step mode character).1 ++ (scan (step mode character).2 rest).1,
      (scan (step mode character).2 rest).2)

/-- An open literal is an error. -/
def finish : Mode → Option (List Token)
  | .between => some []
  | .word text => some [.word text]
  | .literal _ => none
  | .quote text => some [.literal text]

def lexFrom (mode : Mode) (text : List Char) : Option (List Token) :=
  (finish (scan mode text).2).map ((scan mode text).1 ++ ·)

/-- Tokens of a statement text. -/
def lex (text : List Char) : Option (List Token) :=
  lexFrom .between text

/-- Every quote doubled. -/
def double : List Char → List Char
  | [] => []
  | character :: rest =>
    if character = '\'' then '\'' :: '\'' :: double rest else character :: double rest

variable {tokens : List Token} (text contents : List Char) (mode : Mode)

variable (first second : List Char)

theorem scan_append :
    scan mode (first ++ second) =
      ((scan mode first).1 ++ (scan (scan mode first).2 second).1,
        (scan (scan mode first).2 second).2) := by
  induction first generalizing mode with
  | nil => simp [scan]
  | cons character rest ih =>
    simp only [cons_append, scan, ih, append_assoc]

theorem lexFrom_append :
    lexFrom mode (first ++ second) =
      (lexFrom (scan mode first).2 second).map ((scan mode first).1 ++ ·) := by
  simp only [lexFrom, scan_append, Option.map_map]
  congr 1
  funext tokens
  simp

theorem lexFrom_cons (character : Char) (rest : List Char) :
    lexFrom mode (character :: rest) =
      (lexFrom (step mode character).2 rest).map ((step mode character).1 ++ ·) := by
  have read := lexFrom_append mode [character] rest
  simpa [scan] using read

theorem lex_append_of_scan {first : List Char} (read : scan .between first = (tokens, .between))
    (second : List Char) :
    lex (first ++ second) = (lex second).map (tokens ++ ·) := by
  rw [lex, lexFrom_append, read]
  rfl

theorem lex_blank (rest : List Char) : lex (' ' :: rest) = lex rest := by
  rw [lex, lexFrom_cons]
  simp [step, start, isBlank, lex]

theorem lex_symbol {character : Char}
    (isSymbol : start character = ([.symbol character], .between)) (rest : List Char) :
    lex (character :: rest) = (lex rest).map (.symbol character :: ·) := by
  rw [lex, lexFrom_cons, step, isSymbol]
  rfl

theorem scan_literal_double :
    scan (.literal text) (double contents) = ([], .literal (text ++ contents)) := by
  induction contents generalizing text with
  | nil => simp [scan, double]
  | cons character rest ih =>
    by_cases same : character = '\''
    · simp [same, double, scan, step, ih]
    · simp [same, double, scan, step, ih]

theorem double_eq_self {contents : List Char} (plain : '\'' ∉ contents) :
    double contents = contents := by
  induction contents with
  | nil => rfl
  | cons character rest ih =>
    rw [mem_cons, not_or] at plain
    have different : character ≠ '\'' := fun same => plain.1 same.symm
    simp [double, different, ih plain.2]

theorem lex_literal (contents rest : List Char) (separated : rest.head? ≠ some '\'') :
    lex ('\'' :: (double contents ++ '\'' :: rest)) = (lex rest).map (.literal contents :: ·) := by
  have opened : lex ('\'' :: (double contents ++ '\'' :: rest)) =
      lexFrom (.literal []) (double contents ++ '\'' :: rest) := by
    rw [lex, lexFrom_cons]
    simp [step, start, isBlank]
  rw [opened, lexFrom_append, scan_literal_double, lexFrom_cons]
  cases rest with
  | nil => rfl
  | cons character rest =>
    have different : character ≠ '\'' := by simpa using separated
    simp [step, different, lex, lexFrom_cons]
    rfl

/-- The first one had doubled quotes. -/
theorem eq_double_of_lexFrom_literal {text found rest : List Char}
    (read : lexFrom (.literal text) rest = some (.literal found :: tokens)) :
    ∃ contents behind, rest = double contents ++ '\'' :: behind ∧ found = text ++ contents ∧
      behind.head? ≠ some '\'' := by
  suffices both : ∀ (rest text : List Char),
      (lexFrom (.literal text) rest = some (.literal found :: tokens) →
        ∃ contents behind, rest = double contents ++ '\'' :: behind ∧
          found = text ++ contents ∧ behind.head? ≠ some '\'') ∧
      (lexFrom (.quote text) rest = some (.literal found :: tokens) →
        (found = text ∧ rest.head? ≠ some '\'') ∨
        ∃ contents behind, rest = '\'' :: (double contents ++ '\'' :: behind) ∧
          found = text ++ '\'' :: contents ∧ behind.head? ≠ some '\'') from
    (both rest text).1 read
  intro rest
  induction rest with
  | nil =>
    intro text
    constructor
    · intro impossible
      simp [lexFrom, scan, finish] at impossible
    · intro closed
      simp [lexFrom, scan, finish] at closed
      exact .inl ⟨closed.1.symm, by simp⟩
  | cons character rest ih =>
    intro text
    constructor
    · intro read
      rw [lexFrom_cons] at read
      by_cases same : character = '\''
      · simp only [step, same, if_true, nil_append, Option.map_id'] at read
        rcases (ih text).2 read with ⟨rfl, separated⟩ | doubled
        · exact ⟨[], rest, by simp [double, same], by simp, separated⟩
        · obtain ⟨contents, behind, rfl, rfl, separated⟩ := doubled
          exact ⟨'\'' :: contents, behind, by simp [double, same], rfl, separated⟩
      · simp only [step, same, if_false, nil_append, Option.map_id'] at read
        obtain ⟨contents, behind, rfl, rfl, separated⟩ :=
          (ih (text ++ [character])).1 read
        exact ⟨character :: contents, behind, by simp [double, same], by simp, separated⟩
    · intro read
      rw [lexFrom_cons] at read
      by_cases same : character = '\''
      · simp only [step, same, if_true, nil_append, Option.map_id'] at read
        obtain ⟨contents, behind, rfl, rfl, separated⟩ :=
          (ih (text ++ ['\''])).1 read
        exact .inr ⟨contents, behind, by simp [same], by simp, separated⟩
      · simp only [step, same, if_false, Option.map_eq_some_iff, cons_append,
          List.cons.injEq, Token.literal.injEq] at read
        obtain ⟨_, _, rfl, _⟩ := read
        exact .inl ⟨rfl, by simpa using same⟩

theorem not_mem_of_replicate_double_eq (owed : Nat) {contents behind rest : List Char}
    (separated : rest.head? ≠ some '\'')
    (same : List.replicate owed '\'' ++ (double contents ++ '\'' :: behind) =
      contents ++ '\'' :: rest) :
    owed = 0 ∧ '\'' ∉ contents := by
  induction contents generalizing owed with
  | nil =>
    cases owed with
    | zero => simp
    | succ owed =>
      exfalso
      apply separated
      simp only [double, nil_append, replicate_succ, cons_append, List.cons.injEq, true_and] at same
      rw [← same]
      cases owed <;> simp [replicate_succ]
  | cons character contents ih =>
    by_cases isQuote : character = '\''
    · -- one quote is matched, two are written: one more is owed
      have shifted : List.replicate (owed + 1) '\'' ++ (double contents ++ '\'' :: behind) =
          contents ++ '\'' :: rest := by
        have expanded : List.replicate (owed + 2) '\'' ++ (double contents ++ '\'' :: behind) =
            '\'' :: (contents ++ '\'' :: rest) := by
          rw [replicate_add, append_assoc]
          simpa [isQuote, double, replicate_succ] using same
        exact tail_eq_of_cons_eq expanded
      exact absurd (ih (owed + 1) shifted).1 (Nat.succ_ne_zero owed)
    · cases owed with
      | zero =>
        simp only [replicate_zero, nil_append, double, isQuote, if_false,
          cons_append, List.cons.injEq, true_and] at same
        have plain := (ih 0 (by simpa using same)).2
        exact ⟨rfl, by simp [plain, Ne.symm isQuote]⟩
      | succ owed =>
        simp only [replicate_succ, cons_append, List.cons.injEq] at same
        exact absurd same.1.symm isQuote

theorem not_mem_of_lex_raw {contents rest : List Char} (separated : rest.head? ≠ some '\'')
    (read : lex ('\'' :: (contents ++ '\'' :: rest)) = some (.literal contents :: tokens)) :
    '\'' ∉ contents := by
  have opened : lex ('\'' :: (contents ++ '\'' :: rest)) =
      lexFrom (.literal []) (contents ++ '\'' :: rest) := by
    rw [lex, lexFrom_cons]
    simp [step, start, isBlank]
  rw [opened] at read
  obtain ⟨_, behind, same, rfl, _⟩ := eq_double_of_lexFrom_literal read
  exact (not_mem_of_replicate_double_eq 0 separated (by simpa using same.symm)).2

theorem scan_word (characters : ∀ character ∈ contents, isWordCharacter character = true) :
    scan (.word text) contents = ([], .word (text ++ contents)) := by
  induction contents generalizing text with
  | nil => simp [scan]
  | cons character rest ih =>
    rw [forall_mem_cons] at characters
    simp [scan, step, characters.1, ih _ characters.2]

theorem start_word {character : Char} (inWord : isWordCharacter character = true) :
    start character = ([], .word [character]) := by
  have notBlank : isBlank character = false := by
    by_contra blank
    simp only [isBlank, Bool.not_eq_false, Bool.or_eq_true, beq_iff_eq] at blank
    rcases blank with (rfl | rfl) | rfl <;> simp [isWordCharacter] at inWord
  have notQuote : character ≠ '\'' := by
    rintro rfl
    simp [isWordCharacter] at inWord
  simp [start, notBlank, notQuote, inWord]

theorem lex_word {contents : List Char} (nonempty : contents ≠ [])
    (characters : ∀ character ∈ contents, isWordCharacter character = true)
    (rest : List Char) (separated : ∀ character ∈ rest.head?, isWordCharacter character = false) :
    lex (contents ++ rest) = (lex rest).map (.word contents :: ·) := by
  cases contents with
  | nil => exact absurd rfl nonempty
  | cons first contents =>
    rw [forall_mem_cons] at characters
    have opened : lex (first :: contents ++ rest) = lexFrom (.word [first]) (contents ++ rest) := by
      rw [lex, cons_append, lexFrom_cons]
      simp [step, start_word characters.1]
    rw [opened, lexFrom_append, scan_word _ _ characters.2]
    cases rest with
    | nil => rfl
    | cons character rest =>
      have outside : isWordCharacter character = false := separated character rfl
      simp [step, outside, lex, lexFrom_cons]
      rfl

end Cyphesis.Foundation.Sql
