import Cyphesis.Common.Statements

/-!
# Persisted accounts

The password kept with an account is the hash computed when it was created; the message digest is a
parameter.
-/

namespace Cyphesis.Server

open Cyphesis.Atlas List
open Cyphesis.Common
open Cyphesis.Foundation

inductive AccountType where
  | account
  | player
  | admin
  | server
  | sys
  deriving DecidableEq

/-- As the classes override it. -/
def AccountType.getType : AccountType → String
  | .account => "account"
  | .player => "player"
  | .admin => "admin"
  | .server => "server"
  | .sys => "sys"

def hexTable : List Char :=
  ['0', '1', '2', '3', '4', '5', '6', '7', '8', '9', 'A', 'B', 'C', 'D', 'E', 'F']

def hexDigit (nibble : UInt8) : Char :=
  hexTable.getD nibble.toNat '0'

/-- Of each byte the low half first. -/
def hexText (bytes : List UInt8) : List Char :=
  bytes.flatMap fun byte => [hexDigit (byte &&& 0xf), hexDigit ((byte &&& 0xf0) >>> 4)]

/-- Of the random bytes drawn. -/
def generateSalt (bytes : List UInt8) : String :=
  String.ofList (hexText bytes)

variable (digest : String → List UInt8)

/-- `hash_password`. -/
def hashPassword (password salt : String) : String :=
  (if salt.isEmpty then "" else "$1$" ++ salt ++ "$") ++
    String.ofList (hexText (digest (password ++ salt)))

/-- What `putAccount` reads of an account. -/
structure StoredAccount where
  id : Nat
  username : String
  type : AccountType
  password : String

/-- What `Connection::addNewAccount` creates. -/
def newStoredAccount (random : List UInt8) (id : Nat)
    (type : AccountType) (username password : String) : StoredAccount :=
  { id := id, username := username, type := type,
    password := hashPassword digest password (generateSalt random) }

namespace Persistence

variable (name : String)

/-- Query of `findAccount` and `getAccount`. -/
def getAccountQuery : String :=
  Statements.selectSimpleRowBy "accounts" "username" ("'" ++ name ++ "'")

variable (account : StoredAccount)

/-- Command of `Persistence::putAccount`. -/
def putAccountQuery : String :=
  Statements.createSimpleRow "accounts" (toString account.id) "username, type, password"
    ("'" ++ account.username ++ "', '" ++ account.type.getType ++ "', '" ++ account.password ++ "'")

open Statements (word literal)

def getAccountTokens : List Sql.Token :=
  [word "SELECT", .symbol '*', word "FROM", word "accounts", word "WHERE", word "username",
    .symbol '=', literal name]

def putAccountTokens : List Sql.Token :=
  [word "INSERT", word "INTO", word "accounts", .symbol '(', word "id", .symbol ',',
    word "username", .symbol ',', word "type", .symbol ',', word "password", .symbol ')',
    word "VALUES", .symbol '(', word (toString account.id), .symbol ',', literal account.username,
    .symbol ',', literal account.type.getType, .symbol ',', literal account.password, .symbol ')']

variable (rows : List StoredAccount)

/-- The rows a lookup on the user name selects. -/
def selectedRows (tokens : List Sql.Token) : Option (List StoredAccount) :=
  match tokens.getLast? with
  | some (.literal name) =>
    if tokens = getAccountTokens (String.ofList name) then
      some (rows.filter fun row => row.username.toList = name)
    else none
  | _ => none

/-- Statements are read as meant. -/
structure Faithful (serialise : Element → String) (account : StoredAccount) (id : Nat)
    (properties : List (String × Element)) : Prop where
  lookup : Sql.lex (getAccountQuery account.username).toList =
    some (getAccountTokens account.username)
  store : Sql.lex (putAccountQuery account).toList = some (putAccountTokens account)
  insert : Sql.lex (Statements.insertProperties (toString id)
      (Statements.encodeTuples serialise properties)).toList =
    some (Statements.insertTokens serialise (toString id) properties)
  update : (Statements.updateProperties (toString id)
      (Statements.encodeTuples serialise properties)).map (fun text => Sql.lex text.toList) =
    properties.map fun property => some (Statements.updateTokens serialise (toString id) property)
  selects : ∀ rows, (Sql.lex (getAccountQuery account.username).toList).bind (selectedRows rows) =
    some (rows.filter fun row => row.username = account.username)

theorem hexDigit_ne_quote (nibble : UInt8) : hexDigit nibble ≠ '\'' := by
  have plain : ∀ character ∈ '0' :: hexTable, character ≠ '\'' := by simp [hexTable]
  apply plain
  rw [hexDigit, getD_eq_getElem?_getD]
  cases found : hexTable[nibble.toNat]? with
  | none => exact mem_cons_self
  | some character => exact mem_cons_of_mem _ (mem_of_getElem? found)

theorem not_mem_quote_hexText (bytes : List UInt8) : '\'' ∉ hexText bytes := by
  simp only [hexText, mem_flatMap, mem_cons, not_mem_nil, or_false, not_exists, not_and, not_or]
  intro byte _
  exact ⟨(hexDigit_ne_quote _).symm, (hexDigit_ne_quote _).symm⟩

theorem not_mem_quote_hashPassword (digest : String → List UInt8) (password : String)
    (random : List UInt8) :
    '\'' ∉ (hashPassword digest password (generateSalt random)).toList := by
  rw [hashPassword, String.toList_append, mem_append, not_or]
  constructor
  · split
    · simp
    · simp [generateSalt, not_mem_quote_hexText]
  · simp [not_mem_quote_hexText]

theorem not_mem_quote_getType (type : AccountType) : '\'' ∉ type.getType.toList := by
  cases type <;> decide +kernel

theorem getAccountQuery_toList :
    (getAccountQuery name).toList =
      "SELECT * FROM accounts WHERE username = ".toList ++
        '\'' :: (name.toList ++ '\'' :: []) := by
  have opening : ("SELECT * FROM " ++ "accounts" ++ " WHERE " ++ "username" ++ " = ").toList =
      "SELECT * FROM accounts WHERE username = ".toList := by decide +kernel
  have quoted : ("'" ++ name ++ "'").toList = '\'' :: (name.toList ++ '\'' :: []) := by simp
  apply String.toList_append.trans
  rw [opening, quoted]

theorem putAccountQuery_toList :
    (putAccountQuery account).toList =
      "INSERT INTO accounts ( id, username, type, password ) VALUES ( ".toList ++
        ((toString account.id).toList ++ ',' :: ' ' :: '\'' :: (account.username.toList ++
          '\'' :: ',' :: ' ' :: '\'' :: (account.type.getType.toList ++
            '\'' :: ',' :: ' ' :: '\'' :: (account.password.toList ++ '\'' :: ')' :: [])))) := by
  have opening : ("INSERT INTO " ++ "accounts" ++ " ( id, " ++ "username, type, password" ++
      " ) VALUES ( ").toList =
        "INSERT INTO accounts ( id, username, type, password ) VALUES ( ".toList := by
    decide +kernel
  have pieces : ∀ first id values : String,
      (first ++ id ++ ", " ++ values ++ ")").toList =
        first.toList ++ (id.toList ++ ',' :: ' ' :: (values.toList ++ [')'])) := by simp
  have values : ("'" ++ account.username ++ "', '" ++ account.type.getType ++ "', '" ++
      account.password ++ "'").toList =
        '\'' :: (account.username.toList ++ '\'' :: ',' :: ' ' :: '\'' ::
          (account.type.getType.toList ++ '\'' :: ',' :: ' ' :: '\'' ::
            (account.password.toList ++ '\'' :: []))) := by
    simp
  apply (pieces _ _ _).trans
  rw [opening, values]
  simp only [append_assoc, cons_append, nil_append]

theorem scan_select : Sql.scan .between "SELECT * FROM accounts WHERE username = ".toList =
    ([word "SELECT", .symbol '*', word "FROM", word "accounts", word "WHERE", word "username",
      .symbol '='], .between) := by
  decide +kernel

theorem lex_getAccountQuery :
    Sql.lex (getAccountQuery name).toList =
      (Sql.lex ('\'' :: (name.toList ++ '\'' :: []))).map
        ([word "SELECT", .symbol '*', word "FROM", word "accounts", word "WHERE", word "username",
          .symbol '='] ++ ·) := by
  rw [getAccountQuery_toList]
  exact Sql.lex_append_of_scan scan_select _

theorem lex_getAccountQuery_of_plain {name : String} (plain : '\'' ∉ name.toList) :
    Sql.lex (getAccountQuery name).toList = some (getAccountTokens name) := by
  rw [lex_getAccountQuery, Statements.lex_plain plain _ (by simp)]
  rfl

theorem plain_of_lex_getAccountQuery {name : String}
    (read : Sql.lex (getAccountQuery name).toList = some (getAccountTokens name)) :
    '\'' ∉ name.toList := by
  rw [lex_getAccountQuery, Option.map_eq_some_iff] at read
  obtain ⟨tokens, found, same⟩ := read
  have tail : tokens = [.literal name.toList] := append_cancel_left same
  rw [tail] at found
  exact Sql.not_mem_of_lex_raw (by simp) found

theorem lex_putAccountQuery_of_plain {account : StoredAccount}
    (username : '\'' ∉ account.username.toList) (password : '\'' ∉ account.password.toList) :
    Sql.lex (putAccountQuery account).toList = some (putAccountTokens account) := by
  have opened : Sql.scan .between
      "INSERT INTO accounts ( id, username, type, password ) VALUES ( ".toList =
        ([word "INSERT", word "INTO", word "accounts", .symbol '(', word "id", .symbol ',',
          word "username", .symbol ',', word "type", .symbol ',', word "password", .symbol ')',
          word "VALUES", .symbol '('], .between) := by
    decide +kernel
  rw [putAccountQuery_toList]
  apply (Sql.lex_append_of_scan opened _).trans
  rw [Statements.lex_id account.id _ (by simp [Sql.isWordCharacter]), Sql.lex_symbol rfl,
    Sql.lex_blank, Statements.lex_plain username _ (by simp), Sql.lex_symbol rfl, Sql.lex_blank,
    Statements.lex_plain (not_mem_quote_getType account.type) _ (by simp), Sql.lex_symbol rfl,
    Sql.lex_blank, Statements.lex_plain password _ (by simp), Sql.lex_symbol rfl]
  rfl

theorem selectedRows_getAccountTokens (name : String) :
    selectedRows rows (getAccountTokens name) =
      some (rows.filter fun row => row.username = name) := by
  simp [selectedRows, getAccountTokens, literal, String.toList_inj]

/-- An account is stored and read back unchanged just if there is no quote in its user name. -/
theorem faithful_iff_username_plain (serialise : Element → String)
    (digest : String → List UInt8) (random : List UInt8) (accountId : Nat) (type : AccountType)
    (username password : String) (id : Nat) (properties : List (String × Element))
    (valid : ∀ property ∈ properties, PropertyUtil.isValidName property.1 = true) :
    Faithful serialise (newStoredAccount digest random accountId type username password) id
        properties ↔
      '\'' ∉ username.toList := by
  constructor
  · intro faithful
    exact plain_of_lex_getAccountQuery faithful.lookup
  · intro plain
    constructor
    · exact lex_getAccountQuery_of_plain plain
    · exact lex_putAccountQuery_of_plain plain (not_mem_quote_hashPassword digest password random)
    · exact Statements.lex_insertProperties serialise id valid
    · exact Statements.lex_updateProperties serialise id valid
    · intro rows
      have read := lex_getAccountQuery_of_plain plain
      have selected := selectedRows_getAccountTokens rows username
      exact (congrArg (Option.bind · (selectedRows rows)) read).trans selected

/-- What the codec writes for a string, below. -/
def plainCodec : Element → String
  | .map [("val", .string text)] =>
    "<atlas><map><string name=\"val\">" ++ text ++ "</string></map></atlas>"
  | _ => ""

/-- With the password `secret`. -/
def secretAccount (username : String) : StoredAccount :=
  newStoredAccount
    (fun _ => [190, 128, 74, 147, 151, 199, 134, 232, 205, 37, 23, 27, 111, 224, 59, 75])
    [59, 145, 4, 231, 90, 194, 16, 127] 12 .player username "secret"

theorem faithful_iff_username_plain_guest :
    ∃ properties : List (String × Element),
      (∀ property ∈ properties, PropertyUtil.isValidName property.1 = true) ∧
      Faithful plainCodec (secretAccount "guest") 20 properties := by
  refine ⟨[("name", .string "it's"), ("mass", .string "")], by decide +kernel, ?_⟩
  apply (faithful_iff_username_plain _ _ _ _ _ _ _ _ _ (by decide +kernel)).mpr
  decide +kernel

/-- A quote ends the literal early. -/
theorem quoted_username_not_faithful :
    ¬ Faithful plainCodec (secretAccount "o'brien") 20 [] ∧
    Sql.lex (getAccountQuery "o'brien").toList = none := by
  have unread : Sql.lex (getAccountQuery "o'brien").toList = none := by decide +kernel
  constructor
  · intro faithful
    have lookup : Sql.lex (getAccountQuery "o'brien").toList = some _ := faithful.lookup
    rw [unread] at lookup
    cases lookup
  · exact unread

end Persistence

end Cyphesis.Server
