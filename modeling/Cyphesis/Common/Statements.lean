import Cyphesis.Common.Property
import Cyphesis.Foundation.Sql

/-!
# The texts of statements

The statements are put together as texts. Identifiers are decimal numbers; the codec that serialises
a value is a parameter.
-/

namespace Cyphesis.Common

open Cyphesis.Atlas List
open Cyphesis.Foundation

namespace Statements

def selectSimpleRowBy (name column value : String) : String :=
  "SELECT * FROM " ++ name ++ " WHERE " ++ column ++ " = " ++ value

def createSimpleRow (name id columns values : String) : String :=
  "INSERT INTO " ++ name ++ " ( id, " ++ columns ++ " ) VALUES ( " ++ id ++ ", " ++ values ++ ")"

variable (id : String)

def propertyTuple (tuple : String × String) : String :=
  "(" ++ id ++ ", '" ++ tuple.1 ++ "', '" ++ tuple.2 ++ "')"

/-- Loop of `Database::insertProperties`. -/
def insertTuples (id : String) : Bool → List (String × String) → String
  | _, [] => ""
  | true, tuple :: rest => propertyTuple id tuple ++ insertTuples id false rest
  | false, tuple :: rest => ", " ++ propertyTuple id tuple ++ insertTuples id false rest

variable (tuples : List (String × String))

def insertProperties : String :=
  "INSERT INTO properties VALUES " ++ insertTuples id true tuples

def updateProperty (entry : String × String) : String :=
  "UPDATE properties SET value = '" ++ entry.2 ++ "' WHERE id=" ++ id ++ " AND name='" ++
    entry.1 ++ "'"

/-- One statement for each entry. -/
def updateProperties : List String :=
  tuples.map (updateProperty id)

/-- Escape quotes by doubling them. -/
def escapeQuotes (data : String) : String :=
  String.ofList (Sql.double data.toList)

def encodeObject (serialise : Element → String) (object : Element) : String :=
  escapeQuotes (serialise object)

/-- The map a property value is wrapped in. -/
def wrapElement (element : Element) : Element :=
  .map [("val", element)]

def encodeElement (serialise : Element → String) (element : Element) : String :=
  encodeObject serialise (wrapElement element)

/-- Tuples of names and encoded values. -/
def encodeTuples (serialise : Element → String) (properties : List (String × Element)) :
    List (String × String) :=
  properties.map fun property => (property.1, encodeElement serialise property.2)

def word (text : String) : Sql.Token :=
  .word text.toList

def literal (text : String) : Sql.Token :=
  .literal text.toList

/-- Tuple of one property. -/
def tupleTokens (serialise : Element → String) (id : String) (property : String × Element) :
    List Sql.Token :=
  [.symbol '(', word id, .symbol ',', literal property.1, .symbol ',',
    literal (serialise (wrapElement property.2)), .symbol ')']

def tuplesTokens (serialise : Element → String) (id : String) :
    Bool → List (String × Element) → List Sql.Token
  | _, [] => []
  | true, property :: rest =>
    tupleTokens serialise id property ++ tuplesTokens serialise id false rest
  | false, property :: rest =>
    .symbol ',' :: tupleTokens serialise id property ++ tuplesTokens serialise id false rest

def insertTokens (serialise : Element → String) (id : String)
    (properties : List (String × Element)) : List Sql.Token :=
  [word "INSERT", word "INTO", word "properties", word "VALUES"] ++
    tuplesTokens serialise id true properties

def updateTokens (serialise : Element → String) (id : String) (property : String × Element) :
    List Sql.Token :=
  [word "UPDATE", word "properties", word "SET", word "value", .symbol '=',
    literal (serialise (wrapElement property.2)), word "WHERE", word "id", .symbol '=', word id,
    word "AND", word "name", .symbol '=', literal property.1]

theorem toList_append_seven (first second third fourth fifth sixth seventh : String) :
    (first ++ second ++ third ++ fourth ++ fifth ++ sixth ++ seventh).toList =
      first.toList ++ (second.toList ++ (third.toList ++ (fourth.toList ++
        (fifth.toList ++ (sixth.toList ++ seventh.toList))))) := by
  simp

theorem not_mem_quote_of_isValidName {name : String}
    (valid : PropertyUtil.isValidName name = true) : '\'' ∉ name.toList := by
  intro quoted
  simp only [PropertyUtil.isValidName, Bool.and_eq_true, all_eq_true] at valid
  have accepted := valid.2 _ quoted
  simp [PropertyUtil.isValidCharacter] at accepted

theorem toString_toList_ne_nil (id : Nat) : (toString id).toList ≠ [] := by
  simp [Nat.toDigits_ne_nil]

theorem isWordCharacter_of_mem_toString {id : Nat} {character : Char}
    (digit : character ∈ (toString id).toList) : Sql.isWordCharacter character = true := by
  have inDigits : character ∈ Nat.toDigits 10 id := by simpa using digit
  have isDigit : character.isDigit = true :=
    Nat.isDigit_of_mem_toDigits (by decide) (by decide) inDigits
  simp [Sql.isWordCharacter, Char.isAlphanum, isDigit]

theorem lex_id (id : Nat) (rest : List Char)
    (separated : ∀ character ∈ rest.head?, Sql.isWordCharacter character = false) :
    Sql.lex ((toString id).toList ++ rest) = (Sql.lex rest).map (word (toString id) :: ·) :=
  Sql.lex_word (toString_toList_ne_nil id) (fun _ => isWordCharacter_of_mem_toString) rest separated

theorem lex_plain {text : String} (plain : '\'' ∉ text.toList) (rest : List Char)
    (separated : rest.head? ≠ some '\'') :
    Sql.lex ('\'' :: (text.toList ++ '\'' :: rest)) = (Sql.lex rest).map (literal text :: ·) := by
  have read := Sql.lex_literal text.toList rest separated
  rwa [Sql.double_eq_self plain] at read

variable (serialise : Element → String)

theorem lex_encoded (element : Element) (rest : List Char) (separated : rest.head? ≠ some '\'') :
    Sql.lex ('\'' :: ((encodeElement serialise element).toList ++ '\'' :: rest)) =
      (Sql.lex rest).map (literal (serialise (wrapElement element)) :: ·) := by
  have read := Sql.lex_literal (serialise (wrapElement element)).toList rest separated
  simpa [encodeElement, encodeObject, escapeQuotes, literal] using read

theorem lex_propertyTuple (id : Nat) {property : String × Element}
    (valid : PropertyUtil.isValidName property.1 = true) (rest : List Char) :
    Sql.lex ((propertyTuple (toString id)
        (property.1, encodeElement serialise property.2)).toList ++ rest) =
      (Sql.lex rest).map (tupleTokens serialise (toString id) property ++ ·) := by
  have text : (propertyTuple (toString id)
      (property.1, encodeElement serialise property.2)).toList ++ rest =
        '(' :: ((toString id).toList ++ ',' :: ' ' :: '\'' :: (property.1.toList ++
          '\'' :: ',' :: ' ' :: '\'' :: ((encodeElement serialise property.2).toList ++
            '\'' :: ')' :: rest))) := by
    simp [propertyTuple]
  rw [text, Sql.lex_symbol rfl, lex_id id _ (by simp [Sql.isWordCharacter]), Sql.lex_symbol rfl,
    Sql.lex_blank,
    lex_plain (not_mem_quote_of_isValidName valid) _ (by simp), Sql.lex_symbol rfl, Sql.lex_blank,
    lex_encoded serialise _ _ (by simp), Sql.lex_symbol rfl]
  simp only [Option.map_map]
  rfl

section

variable {properties : List (String × Element)}

theorem lex_insertTuples (id : Nat) (first : Bool)
    (valid : ∀ property ∈ properties, PropertyUtil.isValidName property.1 = true) :
    Sql.lex (insertTuples (toString id) first (encodeTuples serialise properties)).toList =
      some (tuplesTokens serialise (toString id) first properties) := by
  induction properties generalizing first with
  | nil => cases first <;> rfl
  | cons property properties ih =>
    rw [forall_mem_cons] at valid
    have behind := ih false valid.2
    simp only [encodeTuples] at behind
    cases first with
    | true =>
      simp only [encodeTuples, map_cons, insertTuples, String.toList_append]
      rw [lex_propertyTuple serialise id valid.1, behind]
      rfl
    | false =>
      simp only [encodeTuples, map_cons, insertTuples, String.toList_append, append_assoc]
      have separator : ", ".toList = [',', ' '] := rfl
      rw [separator, cons_append, cons_append, nil_append, Sql.lex_symbol rfl,
        Sql.lex_blank, lex_propertyTuple serialise id valid.1, behind]
      rfl

theorem lex_insertProperties (id : Nat)
    (valid : ∀ property ∈ properties, PropertyUtil.isValidName property.1 = true) :
    Sql.lex (insertProperties (toString id) (encodeTuples serialise properties)).toList =
      some (insertTokens serialise (toString id) properties) := by
  have opened : Sql.scan .between "INSERT INTO properties VALUES ".toList =
      ([word "INSERT", word "INTO", word "properties", word "VALUES"], .between) := by
    decide +kernel
  have text : (insertProperties (toString id) (encodeTuples serialise properties)).toList =
      "INSERT INTO properties VALUES ".toList ++
        (insertTuples (toString id) true (encodeTuples serialise properties)).toList :=
    String.toList_append
  rw [text]
  apply (Sql.lex_append_of_scan opened _).trans
  rw [lex_insertTuples serialise id true valid]
  rfl

end

theorem lex_updateProperty (id : Nat) {property : String × Element}
    (valid : PropertyUtil.isValidName property.1 = true) :
    Sql.lex (updateProperty (toString id) (property.1, encodeElement serialise property.2)).toList =
      some (updateTokens serialise (toString id) property) := by
  have opened : Sql.scan .between "UPDATE properties SET value = ".toList =
      ([word "UPDATE", word "properties", word "SET", word "value", .symbol '='], .between) := by
    decide +kernel
  have condition : Sql.scan .between "WHERE id=".toList =
      ([word "WHERE", word "id", .symbol '='], .between) := by
    decide +kernel
  have conjunct : Sql.scan .between "AND name=".toList =
      ([word "AND", word "name", .symbol '='], .between) := by
    decide +kernel
  have text : (updateProperty (toString id)
      (property.1, encodeElement serialise property.2)).toList =
        "UPDATE properties SET value = ".toList ++ '\'' ::
          ((encodeElement serialise property.2).toList ++ '\'' :: ' ' :: ("WHERE id=".toList ++
            ((toString id).toList ++ ' ' :: ("AND name=".toList ++
              '\'' :: (property.1.toList ++ ['\'']))))) := by
    have opening : "UPDATE properties SET value = '".toList =
        "UPDATE properties SET value = ".toList ++ ['\''] := by decide +kernel
    have closing : "' WHERE id=".toList = '\'' :: ' ' :: "WHERE id=".toList := by decide +kernel
    have naming : " AND name='".toList = ' ' :: "AND name=".toList ++ ['\''] := by decide +kernel
    have last : "'".toList = ['\''] := by decide +kernel
    apply (toList_append_seven _ _ _ _ _ _ _).trans
    rw [opening, closing, naming, last]
    simp only [append_assoc, cons_append, nil_append]
  have atName : Sql.lex ("AND name=".toList ++ '\'' :: (property.1.toList ++ ['\''])) =
      some [word "AND", word "name", .symbol '=', literal property.1] := by
    apply (Sql.lex_append_of_scan conjunct _).trans
    rw [lex_plain (not_mem_quote_of_isValidName valid) _ (by simp)]
    rfl
  have atCondition : Sql.lex ("WHERE id=".toList ++ ((toString id).toList ++
      ' ' :: ("AND name=".toList ++ '\'' :: (property.1.toList ++ ['\''])))) =
      some [word "WHERE", word "id", .symbol '=', word (toString id), word "AND", word "name",
        .symbol '=', literal property.1] := by
    apply (Sql.lex_append_of_scan condition _).trans
    rw [lex_id id _ (by simp [Sql.isWordCharacter]), Sql.lex_blank, atName]
    rfl
  rw [text]
  apply (Sql.lex_append_of_scan opened _).trans
  rw [lex_encoded serialise _ _ (by simp), Sql.lex_blank, atCondition]
  rfl

theorem lex_updateProperties (id : Nat) {properties : List (String × Element)}
    (valid : ∀ property ∈ properties, PropertyUtil.isValidName property.1 = true) :
    (updateProperties (toString id) (encodeTuples serialise properties)).map
        (fun text => Sql.lex text.toList) =
      properties.map fun property => some (updateTokens serialise (toString id) property) := by
  rw [updateProperties, encodeTuples, map_map, map_map]
  apply map_congr_left
  intro property member
  simp only [Function.comp_apply]
  exact lex_updateProperty serialise id (valid property member)

end Statements

end Cyphesis.Common
